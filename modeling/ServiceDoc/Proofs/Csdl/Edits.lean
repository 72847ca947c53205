import Mathlib.Logic.Relation
import ServiceDoc.Csdl.Reading
import ServiceDoc.Proofs.Xml.DocumentOrder
import ServiceDoc.Proofs.Xml.TagName
/-!
# Edits that a reading does not notice

A reading looks for the elements of seven names and for the attributes of five. It passes over the
namespaces of elements, over all other attributes, over texts, and over every subtree that begins
with another name and has no schema in it. What is left of a tree without these is what a reading
sees of it (`seen`), and it is read as the tree itself (`ofTree_seen`). An edit that changes only
what is passed over therefore changes no reading.

A subtree with a schema in it must stay, though nothing may be known of its root: schemas are found
at any depth. For the same reason a whole document may be put into a new element.
-/

namespace ServiceDoc.Csdl

open Xml (Attribute Name Node)

/-- The elements that a reading looks for. -/
def elementNames : List String :=
  ["Schema", "EntityType", "Property", "Key", "PropertyRef", "EntityContainer", "EntitySet"]

/-- The attributes without a namespace that a reading looks for. -/
def attributeNames : List String := ["Name", "Type", "Namespace", "Alias", "EntityType"]

/-- Whether a reading passes over a tree wherever it stands. -/
def IsForeign (n : Node) : Prop :=
  (∀ name ∈ elementNames, n.isNamed name = false) ∧ n.allNamed "Schema" = []

instance (n : Node) : Decidable (IsForeign n) := inferInstanceAs (Decidable (_ ∧ _))

theorem isForeign_text (s : String) : IsForeign (.text s) := ⟨fun _ _ => rfl, rfl⟩

/-! ## Edits -/

/-- A change at one place of a tree. What it brings in, its reverse takes away. -/
inductive Change : Node → Node → Prop
  /-- Another namespace for an element, or none. -/
  | space (s s' : Option String) (localPart : String) (attributes : List Attribute)
      (children : List Node) :
      Change (.element ⟨s, localPart⟩ attributes children)
        (.element ⟨s', localPart⟩ attributes children)
  /-- A further attribute, which may have one of the five names in a namespace. -/
  | attr {a : Attribute} (h : ∀ name ∈ attributeNames, a.name ≠ ⟨none, name⟩) (name : Name)
      (before after : List Attribute) (children : List Node) :
      Change (.element name (before ++ after) children)
        (.element name (before ++ a :: after) children)
  /-- A further subtree, which may be a text. -/
  | subtree {t : Node} (h : IsForeign t) (name : Name) (attributes : List Attribute)
      (before after : List Node) :
      Change (.element name attributes (before ++ after))
        (.element name attributes (before ++ t :: after))
  | inside {n n' : Node} (h : Change n n') (name : Name) (attributes : List Attribute)
      (before after : List Node) :
      Change (.element name attributes (before ++ n :: after))
        (.element name attributes (before ++ n' :: after))

/-- A change of a tree, or a new element around it. -/
inductive Edit : Node → Node → Prop
  | change {n n' : Node} (h : Change n n') : Edit n n'
  | wrap {name : Name} (h : name.localPart ≠ "Schema") (attributes : List Attribute) (n : Node) :
      Edit n (.element name attributes [n])

/-! ## What a reading sees -/

/-- Whether a reading may look at an attribute of that name. -/
def isSought (a : Attribute) : Bool := attributeNames.any fun name => a.name = ⟨none, name⟩

mutual

/-- A tree without what a reading passes over. -/
def seen : Node → Node
  | .text s => .text s
  | .element name attributes children =>
    .element ⟨none, name.localPart⟩ (attributes.filter isSought) (seenBelow children)

def seenBelow : List Node → List Node
  | [] => []
  | n :: ns => if IsForeign (seen n) then seenBelow ns else seen n :: seenBelow ns

end

theorem seenBelow_eq_filter (ns : List Node) :
    seenBelow ns = (ns.map seen).filter (¬ IsForeign ·) := by
  induction ns with
  | nil => rfl
  | cons n ns ih =>
      rw [seenBelow, ih, List.map_cons]
      by_cases h : IsForeign (seen n) <;> simp [h]

theorem children_seen (n : Node) :
    (seen n).children = (n.children.map seen).filter (¬ IsForeign ·) := by
  cases n with
  | text s => rfl
  | element name attributes children => rw [seen, Node.children, seenBelow_eq_filter, Node.children]

@[simp] theorem isNamed_seen (name : String) (n : Node) :
    (seen n).isNamed name = n.isNamed name := by
  cases n <;> rfl

@[simp] theorem attribute?_seen {name : String} (h : name ∈ attributeNames) (n : Node) :
    (seen n).attribute? name = n.attribute? name := by
  cases n with
  | text s => rfl
  | element tag attributes children =>
      have hsought (a : Attribute) :
          decide (isSought a = true ∧ decide (a.name = ⟨none, name⟩) = true) =
            decide (a.name = ⟨none, name⟩) := by
        rw [decide_eq_decide, decide_eq_true_iff, and_iff_right_iff_imp]
        intro ha
        exact List.any_eq_true.2 ⟨name, h, decide_eq_true ha⟩
      simp only [seen, Node.attribute?, List.find?_filter, hsought]

theorem childrenNamed_seen {name : String} (h : name ∈ elementNames) (n : Node) :
    (seen n).childrenNamed name = (n.childrenNamed name).map seen := by
  have hkept : ∀ c ∈ n.children.map seen,
      (c.isNamed name && decide (¬ IsForeign c)) = c.isNamed name := by
    intro c _
    rw [Bool.and_eq_left_iff_imp, decide_eq_true_iff]
    intro hnamed hforeign
    rw [hforeign.1 name h] at hnamed
    cases hnamed
  have hnames : Node.isNamed name ∘ seen = Node.isNamed name := by
    funext c
    exact isNamed_seen name c
  rw [Node.childrenNamed, children_seen, List.filter_filter, List.filter_congr hkept,
    List.filter_map, hnames, Node.childrenNamed]

theorem flatMap_filter_eq_self {α β : Type} {p : α → Bool} {f : α → List β} {xs : List α}
    (h : ∀ x ∈ xs, p x = false → f x = []) : (xs.filter p).flatMap f = xs.flatMap f := by
  induction xs with
  | nil => rfl
  | cons x xs ih =>
      have hrest := ih fun y hy => h y (List.mem_cons_of_mem x hy)
      cases hx : p x with
      | true => rw [List.filter_cons_of_pos hx, List.flatMap_cons, List.flatMap_cons, hrest]
      | false =>
          rw [List.filter_cons_of_neg (by simp [hx]), List.flatMap_cons, hrest,
            h x List.mem_cons_self hx, List.nil_append]

/-- What is left out has no schema in it, so all schemas are seen. -/
theorem allNamed_seen (n : Node) :
    (seen n).allNamed "Schema" = (n.allNamed "Schema").map seen := by
  induction n using Node.induction_children with
  | h n ih =>
      have hbelow : (seen n).children.flatMap (Node.allNamed "Schema") =
          (n.children.flatMap (Node.allNamed "Schema")).map seen := by
        rw [children_seen, flatMap_filter_eq_self, List.flatMap_map, List.map_flatMap]
        · exact List.flatMap_congr ih
        · intro c _ hc
          exact (not_not.1 (of_decide_eq_false hc)).2
      cases hn : n.isNamed "Schema" with
      | true =>
          have hseen : (seen n).isNamed "Schema" := (isNamed_seen _ n).trans hn
          rw [Node.allNamed_of_isNamed hseen, Node.allNamed_of_isNamed hn, hbelow, List.map_cons]
      | false =>
          have hseen : (seen n).isNamed "Schema" = false := (isNamed_seen _ n).trans hn
          rw [Node.allNamed_of_not_isNamed hseen, Node.allNamed_of_not_isNamed hn, hbelow]

theorem isForeign_seen_iff (n : Node) : IsForeign (seen n) ↔ IsForeign n := by
  rw [IsForeign, allNamed_seen, List.map_eq_nil_iff, IsForeign]
  simp only [isNamed_seen]

/-! ## Readings -/

section Reading

variable (n : Node)

theorem attributeOf_seen {name : String} (h : name ∈ attributeNames) :
    attributeOf name (seen n) = attributeOf name n := by
  rw [attributeOf, attribute?_seen h, attributeOf]

theorem declaredProperties_seen : declaredProperties (seen n) = declaredProperties n := by
  rw [declaredProperties, childrenNamed_seen (by decide), List.map_map, declaredProperties]
  apply List.map_congr_left
  intro p _
  rw [Function.comp_apply, attributeOf_seen p (by decide), attributeOf_seen p (by decide)]

theorem keyReferences_seen : keyReferences (seen n) = keyReferences n := by
  have href (k : Node) : (Node.childrenNamed "PropertyRef" (seen k)).map (attributeOf "Name") =
      (Node.childrenNamed "PropertyRef" k).map (attributeOf "Name") := by
    rw [childrenNamed_seen (by decide), List.map_map]
    exact List.map_congr_left fun r _ => attributeOf_seen r (by decide)
  rw [keyReferences, childrenNamed_seen (by decide), List.flatMap_map, List.map_flatMap,
    keyReferences, List.map_flatMap]
  exact List.flatMap_congr fun k _ => href k

theorem entityType_seen : entityType (seen n) = entityType n := by
  rw [entityType, attributeOf_seen n (by decide), declaredProperties_seen, keyReferences_seen,
    entityType]

theorem keyNotices_seen : keyNotices (seen n) = keyNotices n := by
  rw [keyNotices, attributeOf_seen n (by decide), declaredProperties_seen, keyReferences_seen,
    keyNotices]

theorem declarations_seen : declarations (seen n) = declarations n := by
  rw [declarations, childrenNamed_seen (by decide), List.map_map, attributeOf_seen n (by decide),
    attribute?_seen (by decide), declarations]
  apply List.map_congr_left
  intro element _
  rw [Function.comp_apply, entityType_seen]

theorem setElements_seen : setElements (seen n) = (setElements n).map seen := by
  rw [setElements, childrenNamed_seen (by decide), List.flatMap_map, setElements, List.map_flatMap]
  exact List.flatMap_congr fun c _ => childrenNamed_seen (by decide) c

theorem entitySet?_seen (types : OrderedMap TypeDeclaration) :
    entitySet? types (seen n) = entitySet? types n := by
  rw [entitySet?, attributeOf_seen n (by decide), attributeOf_seen n (by decide), entitySet?]

theorem setNotices_seen (types : OrderedMap TypeDeclaration) (elements : List Node) :
    setNotices types (elements.map seen) = setNotices types elements := by
  have hsets : (fun e => (entitySet? types e).isNone) ∘ seen =
      fun e => (entitySet? types e).isNone := by
    funext e
    rw [Function.comp_apply, entitySet?_seen]
  rw [setNotices, List.filter_map, hsets, List.map_map, setNotices]
  apply List.map_congr_left
  intro e _
  rw [Function.comp_apply, attributeOf_seen e (by decide), attributeOf_seen e (by decide)]

/-- What is seen of a tree is all that is read of it. -/
theorem ofTree_seen : Reading.ofTree (seen n) = Reading.ofTree n := by
  have hdeclarations : ((seen n).allNamed "Schema").flatMap declarations =
      (n.allNamed "Schema").flatMap declarations := by
    rw [allNamed_seen, List.flatMap_map]
    exact List.flatMap_congr fun s _ => declarations_seen s
  have helements : ((seen n).allNamed "Schema").flatMap setElements =
      ((n.allNamed "Schema").flatMap setElements).map seen := by
    rw [allNamed_seen, List.flatMap_map, List.map_flatMap]
    exact List.flatMap_congr fun s _ => setElements_seen s
  have hkeys : (((seen n).allNamed "Schema").flatMap (Node.childrenNamed "EntityType")).flatMap
        keyNotices =
      ((n.allNamed "Schema").flatMap (Node.childrenNamed "EntityType")).flatMap keyNotices := by
    rw [allNamed_seen, List.flatMap_map, List.flatMap_assoc, List.flatMap_assoc]
    apply List.flatMap_congr
    intro s _
    rw [childrenNamed_seen (by decide), List.flatMap_map]
    exact List.flatMap_congr fun e _ => keyNotices_seen e
  have hsets (types : OrderedMap TypeDeclaration) (elements : List Node) :
      (elements.map seen).filterMap (entitySet? types) = elements.filterMap (entitySet? types) := by
    rw [List.filterMap_map]
    exact List.filterMap_congr fun e _ => entitySet?_seen e types
  have hlength : ((seen n).allNamed "Schema").length = (n.allNamed "Schema").length := by
    rw [allNamed_seen, List.length_map]
  simp only [Reading.ofTree, hdeclarations, helements, hkeys, hsets, setNotices_seen, hlength]

end Reading

/-! ## Edits and readings -/

theorem seenBelow_append (ns ms : List Node) :
    seenBelow (ns ++ ms) = seenBelow ns ++ seenBelow ms := by
  simp only [seenBelow_eq_filter, List.map_append, List.filter_append]

/-- No change at one place is seen. -/
theorem Change.seen_eq {n n' : Node} (h : Change n n') : seen n' = seen n := by
  induction h with
  | space => rfl
  | @attr a h name before after children =>
      have hsought : ¬ isSought a := by
        simpa [isSought] using h
      rw [seen, seen, List.filter_append, List.filter_cons_of_neg hsought, List.filter_append]
  | @subtree t h name attributes before after =>
      rw [seen, seen, seenBelow_append, seenBelow_append, seenBelow,
        if_pos ((isForeign_seen_iff t).2 h)]
  | inside _ name attributes before after ih =>
      rw [seen, seen, seenBelow_append, seenBelow_append, seenBelow, ih, ← seenBelow]

theorem allNamed_wrap {name : Name} {sought : String} (h : name.localPart ≠ sought)
    (attributes : List Attribute) (n : Node) :
    (Node.element name attributes [n]).allNamed sought = n.allNamed sought := by
  rw [Node.allNamed, if_neg h, Node.allNamedBelow, Node.allNamedBelow, List.append_nil]

theorem Edit.ofTree_eq {n n' : Node} (h : Edit n n') : Reading.ofTree n' = Reading.ofTree n := by
  cases h with
  | change h => rw [← ofTree_seen, h.seen_eq, ofTree_seen]
  | wrap h attributes n =>
      have hschemas := allNamed_wrap h attributes n
      rw [Reading.ofTree, hschemas, Reading.ofTree]

/-! ## Tags -/

theorem isSought_byTag (a : Attribute) : isSought a.byTag = isSought a := by
  have hbrace : ∀ name ∈ attributeNames, name.toList.head? ≠ some '\x7b' := by
    decide
  rw [isSought, isSought, Bool.eq_iff_iff, List.any_eq_true, List.any_eq_true]
  apply exists_congr
  intro name
  apply and_congr_right
  intro hname
  rw [decide_eq_true_iff, decide_eq_true_iff, ← Name.tag_eq_iff (n := a.name) (hbrace name hname)]
  simp [Attribute.byTag]

/-- The attributes that are looked for have no namespace, so they are their tags. -/
theorem filter_isSought_byTag (attributes : List Attribute) :
    (attributes.map Attribute.byTag).filter isSought = attributes.filter isSought := by
  have hsought : isSought ∘ Attribute.byTag = isSought := by
    funext a
    exact isSought_byTag a
  rw [List.filter_map, hsought]
  conv_rhs => rw [← List.map_id (attributes.filter isSought)]
  apply List.map_congr_left
  intro a ha
  obtain ⟨name, -, hname⟩ := List.any_eq_true.1 (List.mem_filter.1 ha).2
  obtain ⟨tag, value⟩ := a
  obtain rfl : tag = ⟨none, name⟩ := of_decide_eq_true hname
  rfl

/-- Known by its tags, a tree looks as it did. -/
theorem seen_byTags {n : Node} (h : n.HasPlainNames) : seen n.byTags = seen n := by
  induction h with
  | text s => rfl
  | @element name attributes children hn hc ih =>
      have hchildren : (Node.byTagsBelow children).map seen = children.map seen := by
        rw [Node.byTagsBelow_eq_map, List.map_map]
        exact List.map_congr_left ih
      rw [Node.byTags, seen, seen, Name.localOf_tag hn, filter_isSought_byTag,
        seenBelow_eq_filter, hchildren, ← seenBelow_eq_filter]

/-- Any sequence of edits, each made or taken back, leaves the sets and the log of a reading as they
are. The tree may as well be known by its tags alone, whatever its namespaces are. -/
theorem ofTree_of_edits {root root' : Node} (h : Relation.EqvGen Edit root root') :
    (Reading.ofTree root').sets = (Reading.ofTree root).sets ∧
      (Reading.ofTree root').log = (Reading.ofTree root).log ∧
      (root'.HasPlainNames → Reading.ofTree root'.byTags = Reading.ofTree root) := by
  have hread : Reading.ofTree root' = Reading.ofTree root := by
    induction h with
    | rel _ _ hedit => exact hedit.ofTree_eq
    | refl => rfl
    | symm _ _ _ ih => exact ih.symm
    | trans _ _ _ _ _ ih ih' => exact ih'.trans ih
  refine ⟨congrArg Reading.sets hread, congrArg Reading.log hread, ?_⟩
  intro hplain
  rw [← ofTree_seen, seen_byTags hplain, ofTree_seen, hread]

section WrappedSchema

/-- What a schema declares and publishes. -/
def schemaContent : List Node :=
  [.element ⟨none, "EntityType"⟩ [⟨⟨none, "Name"⟩, "T"⟩] [],
    .element ⟨none, "EntityContainer"⟩ [] [
      .element ⟨none, "EntitySet"⟩ [⟨⟨none, "Name"⟩, "Ts"⟩, ⟨⟨none, "EntityType"⟩, "A.T"⟩] []]]

/-- A subtree that seems to declare the type once more. -/
def remark : Node :=
  .element ⟨none, "Annotation"⟩ [] [
    .element ⟨none, "EntityType"⟩ [⟨⟨none, "Name"⟩, "T"⟩] [
      .element ⟨none, "Property"⟩ [⟨⟨none, "Name"⟩, "p"⟩] []]]

def bareSchema : Node :=
  .element ⟨none, "Schema"⟩ [⟨⟨none, "Namespace"⟩, "A"⟩] (.text "\n" :: schemaContent)

/-- The schema in a namespace that looks like a tag, inside another element and without the text,
with an attribute in a namespace and with the subtree. -/
def wrappedSchema : Node :=
  .element ⟨some "u", "Edmx"⟩ [] [
    .element ⟨some "v\x7dKey", "Schema"⟩ [⟨⟨some "w", "Namespace"⟩, "B"⟩, ⟨⟨none, "Namespace"⟩, "A"⟩]
      (remark :: schemaContent)]

theorem ofTree_of_edits_wrappedSchema :
    Relation.EqvGen Edit bareSchema wrappedSchema ∧ wrappedSchema.HasPlainNames ∧
      (Reading.ofTree wrappedSchema).sets = [⟨"Ts", "A", ⟨"T", [], []⟩⟩] ∧
      (Reading.ofTree wrappedSchema.byTags).sets = [⟨"Ts", "A", ⟨"T", [], []⟩⟩] := by
  have hedits : Relation.EqvGen Edit bareSchema wrappedSchema := by
    refine .trans _ _ _ (.symm _ _ (.rel _ _ (.change (.subtree (isForeign_text "\n") _ _ [] _)))) ?_
    refine .trans _ _ _ (.rel _ _ (.change (.space none (some "v\x7dKey") "Schema" _ _))) ?_
    refine .trans _ _ _
      (.rel _ _ (.change (.attr (a := ⟨⟨some "w", "Namespace"⟩, "B"⟩) (by decide) _ [] _ _))) ?_
    refine .trans _ _ _
      (.rel _ _ (.change (.subtree (t := remark) (by decide) _ _ [] _))) ?_
    exact .rel _ _ (.wrap (by decide) [] _)
  have hplain : wrappedSchema.HasPlainNames := by
    simp [wrappedSchema, remark, schemaContent]
  have hread : (Reading.ofTree bareSchema).sets = [⟨"Ts", "A", ⟨"T", [], []⟩⟩] := by
    rfl
  obtain ⟨hsets, -, htags⟩ := ofTree_of_edits hedits
  exact ⟨hedits, hplain, hsets.trans hread, (congrArg Reading.sets (htags hplain)).trans hread⟩

end WrappedSchema

end ServiceDoc.Csdl
