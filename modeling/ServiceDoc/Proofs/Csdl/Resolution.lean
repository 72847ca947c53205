import ServiceDoc.Proofs.Csdl.Table
import ServiceDoc.Proofs.Xml.Markup
/-!
# Resolving references to types

A reading keeps the declared types in one table that is written under two kinds of names. Here the
same resolution is told without a table: a reference means the last declaration that it can mean,
and the sets of a document are those elements whose reference means something. `sets_ofTree` says
that a reading finds exactly these, for any tree.

The order that decides which declaration is the last one goes from schema to schema. It is the order
of the document as long as no schema stands inside another one; `nestedSchemas` is a tree where the
two differ.
-/

namespace ServiceDoc.Csdl

open Xml (Node Markup)

/-! ## Declarations -/

/-- An entity type where it is declared: its element, and the schema that has the element as a
child. -/
structure DeclaredType where
  schema : Node
  element : Node

namespace DeclaredType

def space (d : DeclaredType) : String := attributeOf "Namespace" d.schema

def name (d : DeclaredType) : String := attributeOf "Name" d.element

def qualifiedName (d : DeclaredType) : String := qualify d.space d.name

/-- Whether a reference can mean the type: it has the name of the type behind the namespace of the
schema, or behind the alias of the schema if there is one that is not empty. -/
def IsCalled (d : DeclaredType) (ref : String) : Prop :=
  ref = d.qualifiedName ∨ ∃ a ∈ d.schema.attribute? "Alias", a ≠ "" ∧ ref = qualify a d.name

instance (d : DeclaredType) (ref : String) : Decidable (d.IsCalled ref) :=
  inferInstanceAs (Decidable (_ ∨ _))

def declaration (d : DeclaredType) : TypeDeclaration :=
  ⟨d.space, d.schema.attribute? "Alias", entityType d.element⟩

theorem mem_names_declaration (d : DeclaredType) (ref : String) :
    ref ∈ d.declaration.names ↔ d.IsCalled ref := by
  have hname : d.declaration.type.name = d.name := rfl
  rw [IsCalled, TypeDeclaration.names, hname]
  cases halias : d.schema.attribute? "Alias" with
  | none => simp [declaration, halias, qualifiedName]
  | some a =>
      by_cases ha : a = ""
      · subst ha
        simp [declaration, halias, qualifiedName]
      · have hempty : a.isEmpty = false := by
          rw [Bool.eq_false_iff, ne_eq, String.isEmpty_iff]
          exact ha
        simp [declaration, halias, qualifiedName, hempty, ha]

end DeclaredType

/-- What a reference means among some declarations: the last one that it can mean. -/
def resolve (ds : List DeclaredType) (ref : String) : Option DeclaredType :=
  (ds.filter (·.IsCalled ref)).getLast?

/-- The set that an element publishes, if it refers to one of the declared types. -/
def publishedSet? (ds : List DeclaredType) (element : Node) : Option EntitySet :=
  ((element.attribute? "EntityType").bind (resolve ds)).map fun d =>
    ⟨attributeOf "Name" element, d.space, entityType d.element⟩

theorem get?_typeTable_declaration (ds : List DeclaredType) (ref : String) :
    (typeTable (ds.map DeclaredType.declaration)).get? ref =
      (resolve ds ref).map DeclaredType.declaration := by
  rw [get?_typeTable, List.filter_map, List.getLast?_map, resolve]
  congr 3
  funext d
  rw [Function.comp_apply, decide_eq_decide]
  exact d.mem_names_declaration ref

theorem qualify_ne_empty (space name : String) : qualify space name ≠ "" := by
  intro h
  have hlist : space.toList ++ '.' :: name.toList = [] := by
    simpa [qualify] using congrArg String.toList h
  exact List.append_ne_nil_of_right_ne_nil _ (List.cons_ne_nil _ _) hlist

/-- An element without a reference may be read as one with an empty reference. -/
theorem resolve_empty (ds : List DeclaredType) : resolve ds "" = none := by
  rw [resolve, List.getLast?_eq_none_iff, List.filter_eq_nil_iff]
  intro d _ h
  rcases of_decide_eq_true h with h | ⟨a, -, -, h⟩
  · exact qualify_ne_empty _ _ h.symm
  · exact qualify_ne_empty _ _ h.symm

theorem entitySet?_eq_publishedSet? (ds : List DeclaredType) (element : Node) :
    entitySet? (typeTable (ds.map DeclaredType.declaration)) element =
      publishedSet? ds element := by
  have hbind : (element.attribute? "EntityType").bind (resolve ds) =
      resolve ds (attributeOf "EntityType" element) := by
    rw [attributeOf]
    cases element.attribute? "EntityType" with
    | none => exact (resolve_empty ds).symm
    | some ref => rfl
  rw [entitySet?, get?_typeTable_declaration, publishedSet?, hbind, Option.map_map]
  rfl

/-! ## Orders -/

/-- The declared types, schema by schema. -/
def typesBySchema (root : Node) : List DeclaredType :=
  (root.allNamed "Schema").flatMap fun s => (s.childrenNamed "EntityType").map (⟨s, ·⟩)

/-- The elements that can publish sets, schema by schema. -/
def setsBySchema (root : Node) : List Node :=
  (root.allNamed "Schema").flatMap fun s =>
    (s.childrenNamed "EntityContainer").flatMap (Node.childrenNamed "EntitySet")

/-- The type that is declared at a place: an entity type as the child of a schema. -/
def typeAt? : List Node → Option DeclaredType
  | e :: s :: _ => if e.isNamed "EntityType" ∧ s.isNamed "Schema" then some ⟨s, e⟩ else none
  | _ => none

/-- The element at a place that can publish a set: a set in a container, and that in a schema. -/
def setAt? : List Node → Option Node
  | e :: c :: s :: _ =>
    if e.isNamed "EntitySet" ∧ c.isNamed "EntityContainer" ∧ s.isNamed "Schema" then some e
    else none
  | _ => none

def typesInOrder (root : Node) : List DeclaredType := (root.places []).filterMap typeAt?

def setsInOrder (root : Node) : List Node := (root.places []).filterMap setAt?

def SchemasApart (root : Node) : Prop :=
  ∀ s ∈ root.allNamed "Schema", ∀ c ∈ s.children, c.allNamed "Schema" = []

theorem isAnchored_typeAt? : Node.IsAnchored "Schema" 1 typeAt? where
  needs n above h := by
    cases above with
    | nil => rfl
    | cons s above =>
        have hs : s.isNamed "Schema" = false := h s (by simp)
        simp [typeAt?, hs]
  stops s hs c below above := by
    cases below <;> rfl

theorem isAnchored_setAt? : Node.IsAnchored "Schema" 2 setAt? where
  needs n above h := by
    match above with
    | [] => rfl
    | [_] => rfl
    | c :: s :: above =>
        have hs : s.isNamed "Schema" = false := h s (by simp)
        simp [setAt?, hs]
  stops s hs c below above := by
    have hcontainer : s.isNamed "EntityContainer" = false :=
      Node.not_isNamed_of_ne hs (by decide)
    match below with
    | [] => cases above <;> simp [setAt?, hcontainer]
    | [_] => rfl
    | _ :: _ :: _ => rfl

theorem typesInOrder_eq_typesBySchema {root : Node} (h : SchemasApart root) :
    typesInOrder root = typesBySchema root := by
  rw [typesInOrder, Node.filterMap_places isAnchored_typeAt? h (by simp), typesBySchema]
  apply List.flatMap_congr
  intro s hs
  rw [List.map_eq_flatMap, Node.flatMap_childrenNamed]
  apply List.flatMap_congr
  intro c _
  have hschema := Node.isNamed_of_mem_allNamed hs
  rw [Node.choicesWithin_one]
  by_cases htype : c.isNamed "EntityType" <;> simp [typeAt?, hschema, htype]

theorem setsInOrder_eq_setsBySchema {root : Node} (h : SchemasApart root) :
    setsInOrder root = setsBySchema root := by
  rw [setsInOrder, Node.filterMap_places isAnchored_setAt? h (by simp), setsBySchema]
  apply List.flatMap_congr
  intro s hs
  rw [Node.flatMap_childrenNamed]
  apply List.flatMap_congr
  intro c _
  have hschema := Node.isNamed_of_mem_allNamed hs
  rw [Node.choicesWithin_add_two 0 [s] c rfl, Node.choicesWithin_one]
  by_cases hcontainer : c.isNamed "EntityContainer"
  · have hset : (fun d => (setAt? [d, c, s]).toList) = fun d =>
        if d.isNamed "EntitySet" then [d] else [] := by
      funext d
      by_cases hset : d.isNamed "EntitySet" <;> simp [setAt?, hschema, hcontainer, hset]
    rw [if_pos hcontainer, hset, ← Node.flatMap_childrenNamed, List.flatMap_singleton']
  · simp [setAt?, hcontainer]

/-! ## Readings -/

theorem flatMap_declarations (root : Node) :
    (root.allNamed "Schema").flatMap declarations =
      (typesBySchema root).map DeclaredType.declaration := by
  rw [typesBySchema, List.map_flatMap]
  apply List.flatMap_congr
  intro s _
  rw [List.map_map]
  rfl

theorem sets_eq_filterMap_publishedSet? (root : Node) :
    (Reading.ofTree root).sets =
      (setsBySchema root).filterMap (publishedSet? (typesBySchema root)) := by
  simp only [Reading.ofTree, flatMap_declarations]
  apply List.filterMap_congr
  intro element _
  exact entitySet?_eq_publishedSet? (typesBySchema root) element

/-- A set that is read has the namespace and the type of a declaration. -/
theorem exists_declaredType_of_mem_sets {root : Node} {s : EntitySet}
    (hs : s ∈ (Reading.ofTree root).sets) :
    ∃ d ∈ typesBySchema root, s.space = d.space ∧ s.entityType = entityType d.element := by
  rw [sets_eq_filterMap_publishedSet?] at hs
  obtain ⟨element, -, hpublished⟩ := List.mem_filterMap.1 hs
  obtain ⟨d, hd, rfl⟩ := Option.map_eq_some_iff.1 hpublished
  obtain ⟨ref, -, hresolve⟩ := Option.bind_eq_some_iff.1 hd
  exact ⟨d, (mem_of_getLast?_filter hresolve).1, rfl, rfl⟩

/-- The sets of a tree are the elements whose reference means a declared type, where the last
declaration counts, each set with the namespace and the type of that declaration. The order in both
places goes from schema to schema, which is document order unless a schema stands in another one. -/
theorem sets_ofTree (root : Node) :
    (Reading.ofTree root).sets =
        (setsBySchema root).filterMap (publishedSet? (typesBySchema root)) ∧
      (SchemasApart root → (Reading.ofTree root).sets =
        (setsInOrder root).filterMap (publishedSet? (typesInOrder root))) := by
  have hsets := sets_eq_filterMap_publishedSet? root
  constructor
  · exact hsets
  · intro h
    rw [hsets, typesInOrder_eq_typesBySchema h, setsInOrder_eq_setsBySchema h]

/-- Two schemas apart; a set refers by an alias to a type of the second one, which is declared
twice. -/
def laterSchema : Node :=
  (Markup.pair "Edmx" [] [
    .pair "Schema" [("Namespace", "A")] [
      .pair "EntityContainer" [] [
        .single "EntitySet" [("Name", "Ts"), ("EntityType", "b.T")],
        .single "EntitySet" [("Name", "Us"), ("EntityType", "b.U")]]],
    .pair "Schema" [("Namespace", "B"), ("Alias", "b")] [
      .pair "EntityType" [("Name", "T")] [],
      .pair "EntityType" [("Name", "T")] [.single "Property" [("Name", "p")]]]]).node

theorem sets_ofTree_laterSchema :
    SchemasApart laterSchema ∧
      (Reading.ofTree laterSchema).sets = [⟨"Ts", "B", ⟨"T", [⟨"p", ""⟩], []⟩⟩] := by
  have hapart : SchemasApart laterSchema := by
    simp [SchemasApart, laterSchema, Markup.node, Markup.nodesBelow, Node.allNamed,
      Node.allNamedBelow, Node.children]
  refine ⟨hapart, ?_⟩
  rw [(sets_ofTree laterSchema).2 hapart]
  rfl

/-- A schema inside another one, before a declaration of the outer schema. -/
def nestedSchemas : Node :=
  (Markup.pair "Schema" [("Namespace", "A")] [
    .pair "Schema" [("Namespace", "A")] [
      .pair "EntityType" [("Name", "T")] [.single "Property" [("Name", "inner")]]],
    .pair "EntityType" [("Name", "T")] [.single "Property" [("Name", "outer")]],
    .pair "EntityContainer" [] [
      .single "EntitySet" [("Name", "Ts"), ("EntityType", "A.T")]]]).node

theorem sets_ofTree_nestedSchemas :
    ¬ ∀ root, (Reading.ofTree root).sets =
      (setsInOrder root).filterMap (publishedSet? (typesInOrder root)) := by
  intro h
  have hread : (Reading.ofTree nestedSchemas).sets = [⟨"Ts", "A", ⟨"T", [⟨"inner", ""⟩], []⟩⟩] := by
    rfl
  have horder : (setsInOrder nestedSchemas).filterMap (publishedSet? (typesInOrder nestedSchemas)) =
      [⟨"Ts", "A", ⟨"T", [⟨"outer", ""⟩], []⟩⟩] := by
    rfl
  have heq := hread.symm.trans ((h nestedSchemas).trans horder)
  simp at heq

end ServiceDoc.Csdl
