import ServiceDoc.Proofs.Csdl.Resolution
/-!
# The order of schemas

The order of the schemas of a document decides which declaration of a type counts, and this only
where two schemas register a type under one name. If no two do, a reference has all its candidates
in one schema, so every schema publishes the same sets wherever it stands (`publishedIn_of_perm`),
and the sets of a document are those of its schemas, one after the other.

A schema may also be taken apart. Parts that keep its names, and its types and containers in their
order, stand for the whole (`sets_of_isSplit`).
-/

namespace ServiceDoc.Csdl

open Xml (Node)

/-- The types that a schema declares. -/
def typesIn (schema : Node) : List DeclaredType :=
  (schema.childrenNamed "EntityType").map (⟨schema, ·⟩)

/-- Whether a schema registers a type under a name. -/
def Registers (schema : Node) (name : String) : Prop := ∃ d ∈ typesIn schema, d.IsCalled name

/-- No name is registered by two schemas, though one of them may register it more than once. -/
def RegisterApart (schemas : List Node) : Prop :=
  schemas.Pairwise fun s t => ∀ name, ¬ (Registers s name ∧ Registers t name)

/-- The sets that a schema publishes as a part of a document. -/
def publishedIn (root schema : Node) : List EntitySet :=
  (setElements schema).filterMap (publishedSet? (typesBySchema root))

theorem sets_eq_flatMap_publishedIn (root : Node) :
    (Reading.ofTree root).sets = (root.allNamed "Schema").flatMap (publishedIn root) := by
  rw [sets_eq_filterMap_publishedSet?, setsBySchema, List.filterMap_flatMap]
  rfl

/-! ## Schemas in another order -/

/-- Where at most one member of a list contributes anything, the order of the list does not
matter. -/
theorem flatMap_eq_of_perm {α β : Type} {xs ys : List α} {f : α → List β} (h : xs.Perm ys)
    (hf : xs.Pairwise fun x y => f x = [] ∨ f y = []) : xs.flatMap f = ys.flatMap f := by
  induction h with
  | nil => rfl
  | cons x _ ih => rw [List.flatMap_cons, List.flatMap_cons, ih hf.of_cons]
  | swap x y zs =>
      have hxy : f y = [] ∨ f x = [] := List.rel_of_pairwise_cons hf List.mem_cons_self
      rcases hxy with hnil | hnil <;> simp [hnil]
  | trans h _ ih ih' => exact (ih hf).trans (ih' ((h.pairwise_iff Or.symm).1 hf))

variable {root root' : Node}

theorem resolve_of_perm (hperm : (root.allNamed "Schema").Perm (root'.allNamed "Schema"))
    (hkeys : RegisterApart (root.allNamed "Schema")) (ref : String) :
    resolve (typesBySchema root) ref = resolve (typesBySchema root') ref := by
  have hfilter (r : Node) : (typesBySchema r).filter (·.IsCalled ref) =
      (r.allNamed "Schema").flatMap fun s => (typesIn s).filter (·.IsCalled ref) :=
    List.filter_flatMap
  rw [resolve, resolve, hfilter, hfilter, flatMap_eq_of_perm hperm]
  apply hkeys.imp
  intro s t hst
  by_contra hnot
  rw [not_or] at hnot
  obtain ⟨d, hd⟩ := List.exists_mem_of_ne_nil _ hnot.1
  obtain ⟨e, he⟩ := List.exists_mem_of_ne_nil _ hnot.2
  rw [List.mem_filter, decide_eq_true_iff] at hd he
  exact hst ref ⟨⟨d, hd⟩, ⟨e, he⟩⟩

/-- A schema publishes the same sets wherever it stands. -/
theorem publishedIn_of_perm (hperm : (root.allNamed "Schema").Perm (root'.allNamed "Schema"))
    (hkeys : RegisterApart (root.allNamed "Schema")) (schema : Node) :
    publishedIn root schema = publishedIn root' schema := by
  apply List.filterMap_congr
  intro element _
  have hresolve : resolve (typesBySchema root) = resolve (typesBySchema root') := by
    funext ref
    exact resolve_of_perm hperm hkeys ref
  rw [publishedSet?, publishedSet?, hresolve]

theorem sets_perm_of_perm (hperm : (root.allNamed "Schema").Perm (root'.allNamed "Schema"))
    (hkeys : RegisterApart (root.allNamed "Schema")) :
    (Reading.ofTree root).sets.Perm (Reading.ofTree root').sets := by
  have hpublished : publishedIn root = publishedIn root' := by
    funext schema
    exact publishedIn_of_perm hperm hkeys schema
  rw [sets_eq_flatMap_publishedIn, sets_eq_flatMap_publishedIn, hpublished]
  exact hperm.flatMap_right _

/-! ## Schemas taken apart -/

/-- Whether a schema can be replaced by some others: they have its names, and its types and its
containers in their order. -/
structure IsSplit (schema : Node) (parts : List Node) : Prop where
  space_eq : ∀ p ∈ parts, p.attribute? "Namespace" = schema.attribute? "Namespace"
  alias_eq : ∀ p ∈ parts, p.attribute? "Alias" = schema.attribute? "Alias"
  flatMap_types : parts.flatMap (Node.childrenNamed "EntityType") = schema.childrenNamed "EntityType"
  flatMap_containers : parts.flatMap (Node.childrenNamed "EntityContainer") =
    schema.childrenNamed "EntityContainer"

theorem IsSplit.flatMap_declarations {schema : Node} {parts : List Node}
    (h : IsSplit schema parts) : parts.flatMap declarations = declarations schema := by
  rw [declarations, ← h.flatMap_types, List.map_flatMap]
  apply List.flatMap_congr
  intro p hp
  rw [declarations, attributeOf, attributeOf, h.space_eq p hp, h.alias_eq p hp]

theorem IsSplit.flatMap_setElements {schema : Node} {parts : List Node}
    (h : IsSplit schema parts) : parts.flatMap setElements = setElements schema := by
  rw [setElements, ← h.flatMap_containers, List.flatMap_assoc]
  rfl

theorem flatMap_flatten_of_forall₂ {α β : Type} {f : α → List β} {R : α → List α → Prop}
    (hR : ∀ x ys, R x ys → ys.flatMap f = f x) {xs : List α} {parts : List (List α)}
    (h : List.Forall₂ R xs parts) : parts.flatten.flatMap f = xs.flatMap f := by
  induction h with
  | nil => rfl
  | cons hx _ ih => rw [List.flatten_cons, List.flatMap_append, List.flatMap_cons, hR _ _ hx, ih]

/-- Taking schemas apart does not change the sets of a document. -/
theorem sets_of_isSplit {parts : List (List Node)}
    (hparts : List.Forall₂ IsSplit (root.allNamed "Schema") parts)
    (hschemas : root'.allNamed "Schema" = parts.flatten) :
    (Reading.ofTree root').sets = (Reading.ofTree root).sets := by
  have hdeclarations : (root'.allNamed "Schema").flatMap declarations =
      (root.allNamed "Schema").flatMap declarations := by
    rw [hschemas]
    exact flatMap_flatten_of_forall₂ (fun _ _ h => h.flatMap_declarations) hparts
  have helements : (root'.allNamed "Schema").flatMap setElements =
      (root.allNamed "Schema").flatMap setElements := by
    rw [hschemas]
    exact flatMap_flatten_of_forall₂ (fun _ _ h => h.flatMap_setElements) hparts
  simp only [Reading.ofTree, hdeclarations, helements]

end ServiceDoc.Csdl
