import Mathlib
import ServiceDoc.Proofs.Csdl.Resolution
/-!
# What a reading leaves out

A reading leaves out references to properties and to types that are not declared, and it says so.
Here each reference of a key is a thing of its own, with the type whose key it belongs to, whether
or not that type is ever used. What is published and what is told then make up all that the tree has
to offer (`log_ofTree`): no reference and no set goes without a notice, and none is told twice.

As for the sets themselves, the order goes from schema to schema, and `nestedContainers` is a tree
where a reader of the document would expect the notices in another one.
-/

namespace ServiceDoc.Csdl

open Xml (Node Markup)

/-- A reference to a property in the key of a declared type. -/
structure KeyReference where
  type : DeclaredType
  element : Node

namespace KeyReference

def name (r : KeyReference) : String := attributeOf "Name" r.element

/-- Whether the type of the key has a property of the name. -/
def IsDeclared (r : KeyReference) : Prop :=
  ∃ p ∈ r.type.element.childrenNamed "Property", attributeOf "Name" p = r.name

instance (r : KeyReference) : Decidable r.IsDeclared :=
  inferInstanceAs (Decidable (∃ p ∈ r.type.element.childrenNamed "Property", _))

theorem isNone_get?_propertyTable_iff (r : KeyReference) :
    ((propertyTable (declaredProperties r.type.element)).get? r.name).isNone ↔ ¬ r.IsDeclared := by
  rw [get?_propertyTable, Option.isNone_iff_eq_none, List.getLast?_eq_none_iff,
    List.filter_eq_nil_iff, IsDeclared, declaredProperties, List.forall_mem_map]
  simp

end KeyReference

/-- What is left out of a list and what is not are the whole list. -/
theorem length_filterMap_add_isNone {α β : Type} (f : α → Option β) (xs : List α) :
    (xs.filterMap f).length + (xs.filter fun x => (f x).isNone).length = xs.length := by
  rw [List.length_filterMap_eq_countP, ← List.countP_eq_length_filter,
    List.length_eq_countP_add_countP fun x => (f x).isSome]
  congr 1
  apply List.countP_congr
  intro x _
  simp

/-! ## Keys -/

namespace DeclaredType

/-- The references in the key of a type, over all its key elements. -/
def references (d : DeclaredType) : List KeyReference :=
  ((d.element.childrenNamed "Key").flatMap (Node.childrenNamed "PropertyRef")).map (⟨d, ·⟩)

/-- The references in the key of a type that its key leaves out. -/
def undeclaredReferences (d : DeclaredType) : List KeyReference :=
  d.references.filter fun r => ¬ r.IsDeclared

variable (d : DeclaredType)

theorem keyReferences_element : keyReferences d.element = d.references.map KeyReference.name := by
  rw [keyReferences, references, List.map_map]
  rfl

theorem undeclaredReferences_eq_filter :
    d.undeclaredReferences = d.references.filter fun r =>
      ((propertyTable (declaredProperties d.element)).get? r.name).isNone := by
  apply List.filter_congr
  intro r hr
  obtain ⟨element, -, rfl⟩ := List.mem_map.1 hr
  rw [Bool.eq_iff_iff, decide_eq_true_iff]
  exact (KeyReference.isNone_get?_propertyTable_iff ⟨d, element⟩).symm

/-- Every reference in a key makes a member of the key, or is left out. -/
theorem length_references :
    d.references.length = (entityType d.element).key.length + d.undeclaredReferences.length := by
  have hkey : (entityType d.element).key =
      d.references.filterMap fun r =>
        (propertyTable (declaredProperties d.element)).get? r.name := by
    rw [entityType]
    dsimp only
    rw [keyReferences_element, List.filterMap_map]
    rfl
  rw [hkey, undeclaredReferences_eq_filter, length_filterMap_add_isNone]

theorem keyNotices_element :
    keyNotices d.element =
      d.undeclaredReferences.map fun r => .undeclaredKey r.name r.type.name := by
  rw [keyNotices, keyReferences_element, undeclaredReferences_eq_filter, List.filter_map,
    List.map_map]
  apply List.map_congr_left
  intro r hr
  obtain ⟨element, -, rfl⟩ := List.mem_map.1 (List.mem_of_mem_filter hr)
  rfl

end DeclaredType

/-! ## Orders -/

/-- The references in all keys, schema by schema. -/
def referencesBySchema (root : Node) : List KeyReference :=
  (typesBySchema root).flatMap DeclaredType.references

/-- The reference at a place: a reference in a key, that in a type, and that in a schema. -/
def referenceAt? : List Node → Option KeyReference
  | r :: k :: e :: s :: _ =>
    if r.isNamed "PropertyRef" ∧ k.isNamed "Key" ∧ e.isNamed "EntityType" ∧ s.isNamed "Schema" then
      some ⟨⟨s, e⟩, r⟩
    else none
  | _ => none

def referencesInOrder (root : Node) : List KeyReference := (root.places []).filterMap referenceAt?

theorem isAnchored_referenceAt? : Node.IsAnchored "Schema" 3 referenceAt? where
  needs n above h := by
    match above with
    | [] => rfl
    | [_] => rfl
    | [_, _] => rfl
    | k :: e :: s :: above =>
        have hs : s.isNamed "Schema" = false := h s (by simp)
        simp [referenceAt?, hs]
  stops s hs c below above := by
    have hkey : s.isNamed "Key" = false := Node.not_isNamed_of_ne hs (by decide)
    have htype : s.isNamed "EntityType" = false := Node.not_isNamed_of_ne hs (by decide)
    match below with
    | [] => rcases above with _ | ⟨_, _ | ⟨_, _⟩⟩ <;> simp [referenceAt?, hkey]
    | [_] => cases above <;> simp [referenceAt?, htype]
    | [_, _] => rfl
    | _ :: _ :: _ :: _ => rfl

theorem referencesInOrder_eq_referencesBySchema {root : Node} (h : SchemasApart root) :
    referencesInOrder root = referencesBySchema root := by
  rw [referencesInOrder, Node.filterMap_places isAnchored_referenceAt? h (by simp),
    referencesBySchema, typesBySchema, List.flatMap_assoc]
  apply List.flatMap_congr
  intro s hs
  have hschema := Node.isNamed_of_mem_allNamed hs
  rw [List.flatMap_map, Node.flatMap_childrenNamed]
  apply List.flatMap_congr
  intro e _
  rw [Node.choicesWithin_add_two 1 [s] e rfl]
  by_cases htype : e.isNamed "EntityType"
  · rw [if_pos htype, DeclaredType.references, List.map_flatMap, Node.flatMap_childrenNamed]
    apply List.flatMap_congr
    intro k _
    rw [Node.choicesWithin_add_two 0 [e, s] k rfl, Node.choicesWithin_one]
    by_cases hkey : k.isNamed "Key"
    · rw [if_pos hkey, List.map_eq_flatMap, Node.flatMap_childrenNamed]
      apply List.flatMap_congr
      intro r _
      by_cases href : r.isNamed "PropertyRef" <;>
        simp [referenceAt?, hschema, htype, hkey, href]
    · simp [referenceAt?, hkey]
  · rw [if_neg htype, List.flatMap_eq_nil_iff]
    intro k _
    rw [Node.choicesWithin_add_two 0 [e, s] k rfl, Node.choicesWithin_one]
    simp [referenceAt?, htype]

/-! ## The log -/

/-- The references that the keys leave out, schema by schema. -/
def undeclaredBySchema (root : Node) : List KeyReference :=
  (referencesBySchema root).filter fun r => ¬ r.IsDeclared

/-- The elements that publish no set, schema by schema. -/
def unresolvedBySchema (root : Node) : List Node :=
  (setsBySchema root).filter fun n => (publishedSet? (typesBySchema root) n).isNone

theorem undeclaredBySchema_eq_flatMap (root : Node) :
    undeclaredBySchema root = (typesBySchema root).flatMap DeclaredType.undeclaredReferences := by
  rw [undeclaredBySchema, referencesBySchema, List.filter_flatMap]
  rfl

theorem length_referencesBySchema (root : Node) :
    (referencesBySchema root).length =
      ((typesBySchema root).flatMap fun d => (entityType d.element).key).length +
        (undeclaredBySchema root).length := by
  rw [undeclaredBySchema_eq_flatMap, referencesBySchema]
  induction typesBySchema root with
  | nil => rfl
  | cons d ds ih =>
      simp only [List.flatMap_cons, List.length_append, ih, d.length_references]
      omega

theorem flatMap_keyNotices (root : Node) :
    ((root.allNamed "Schema").flatMap (Node.childrenNamed "EntityType")).flatMap keyNotices =
      (undeclaredBySchema root).map fun r => .undeclaredKey r.name r.type.name := by
  have helements : (root.allNamed "Schema").flatMap (Node.childrenNamed "EntityType") =
      (typesBySchema root).map DeclaredType.element := by
    rw [typesBySchema, List.map_flatMap]
    apply List.flatMap_congr
    intro s _
    rw [List.map_map]
    exact (List.map_id' _).symm
  rw [helements, List.flatMap_map, undeclaredBySchema_eq_flatMap, List.map_flatMap]
  apply List.flatMap_congr
  intro d _
  exact d.keyNotices_element

theorem setNotices_setsBySchema (root : Node) :
    setNotices (typeTable ((typesBySchema root).map DeclaredType.declaration)) (setsBySchema root) =
      (unresolvedBySchema root).map fun n =>
        .unknownType (attributeOf "Name" n) (attributeOf "EntityType" n) := by
  rw [setNotices, unresolvedBySchema]
  congr 1
  apply List.filter_congr
  intro n _
  rw [entitySet?_eq_publishedSet?]

theorem notices_ofTree (root : Node) :
    (Reading.ofTree root).notices =
      (undeclaredBySchema root).map (fun r => .undeclaredKey r.name r.type.name) ++
        (unresolvedBySchema root).map
          (fun n => .unknownType (attributeOf "Name" n) (attributeOf "EntityType" n)) ++
        [.summary (Reading.ofTree root).sets.length (root.allNamed "Schema").length] := by
  rw [← flatMap_keyNotices, ← setNotices_setsBySchema, ← flatMap_declarations]
  rfl

/-- The log of a reading names the references that keys leave out, then the elements that publish no
set, and ends with the numbers of sets and of schemas. With what it names, the sets account for all
elements that can publish one, and the keys for all references in the keys of declared types. The
order goes from schema to schema, which is document order unless a schema stands in another one. -/
theorem log_ofTree (root : Node) :
    (Reading.ofTree root).log =
        (undeclaredBySchema root).map (fun r => (Notice.undeclaredKey r.name r.type.name).record) ++
          (unresolvedBySchema root).map (fun n =>
            (Notice.unknownType (attributeOf "Name" n) (attributeOf "EntityType" n)).record) ++
          [(Notice.summary (Reading.ofTree root).sets.length
            (root.allNamed "Schema").length).record] ∧
      (setsBySchema root).length =
        (Reading.ofTree root).sets.length + (unresolvedBySchema root).length ∧
      (referencesBySchema root).length =
        ((typesBySchema root).flatMap fun d => (entityType d.element).key).length +
          (undeclaredBySchema root).length ∧
      (SchemasApart root → setsBySchema root = setsInOrder root ∧
        typesBySchema root = typesInOrder root ∧
        referencesBySchema root = referencesInOrder root) := by
  refine ⟨?_, ?_, length_referencesBySchema root, ?_⟩
  · rw [Reading.log, notices_ofTree, List.map_append, List.map_append, List.map_map, List.map_map]
    rfl
  · rw [sets_eq_filterMap_publishedSet?, unresolvedBySchema, length_filterMap_add_isNone]
  · intro h
    exact ⟨(setsInOrder_eq_setsBySchema h).symm, (typesInOrder_eq_typesBySchema h).symm,
      (referencesInOrder_eq_referencesBySchema h).symm⟩

/-- A type that is declared twice with a reference too many in each key, and a set of another type,
which is not declared. -/
def leftOut : Node :=
  (Markup.pair "Schema" [("Namespace", "A")] [
    .pair "EntityContainer" [] [
      .single "EntitySet" [("Name", "Us"), ("EntityType", "A.U")],
      .single "EntitySet" [("Name", "Ts"), ("EntityType", "A.T")]],
    .pair "EntityType" [("Name", "T")] [
      .pair "Key" [] [.single "PropertyRef" [("Name", "p")]]],
    .pair "EntityType" [("Name", "T")] [
      .pair "Key" [] [.single "PropertyRef" [("Name", "p")], .single "PropertyRef" [("Name", "q")]],
      .single "Property" [("Name", "q")]]]).node

theorem log_ofTree_leftOut :
    SchemasApart leftOut ∧ (setsInOrder leftOut).length = 2 ∧
      (referencesInOrder leftOut).length = 3 ∧
      (Reading.ofTree leftOut).log =
        [⟨.warning, "odata_swagger.loader", "Key property 'p' is not declared on T, skipping"⟩,
          ⟨.warning, "odata_swagger.loader", "Key property 'p' is not declared on T, skipping"⟩,
          ⟨.warning, "odata_swagger.loader",
            "Entity set Us references unknown type 'A.U', skipping"⟩,
          ⟨.debug, "odata_swagger.loader", "Parsed 1 entity sets from 1 schemas"⟩] := by
  have hapart : SchemasApart leftOut := by
    simp [SchemasApart, leftOut, Markup.node, Markup.nodesBelow, Node.allNamed,
      Node.allNamedBelow, Node.children]
  obtain ⟨hlog, hsets, hreferences, horder⟩ := log_ofTree leftOut
  obtain ⟨hsetOrder, -, hreferenceOrder⟩ := horder hapart
  refine ⟨hapart, ?_, ?_, ?_⟩
  · rw [← hsetOrder, hsets]
    rfl
  · rw [← hreferenceOrder, hreferences]
    rfl
  · rw [hlog]
    cbv

/-- A schema inside another one, before the container of the outer schema. -/
def nestedContainers : Node :=
  (Markup.pair "Schema" [("Namespace", "A")] [
    .pair "Schema" [("Namespace", "A")] [
      .pair "EntityContainer" [] [
        .single "EntitySet" [("Name", "inner"), ("EntityType", "A.T")]]],
    .pair "EntityContainer" [] [
      .single "EntitySet" [("Name", "outer"), ("EntityType", "A.T")]]]).node

theorem log_ofTree_nestedContainers :
    ¬ ∀ root, (Reading.ofTree root).log =
      ((referencesInOrder root).filter fun r => ¬ r.IsDeclared).map
          (fun r => (Notice.undeclaredKey r.name r.type.name).record) ++
        ((setsInOrder root).filter fun n => (publishedSet? (typesInOrder root) n).isNone).map
          (fun n => (Notice.unknownType (attributeOf "Name" n) (attributeOf "EntityType" n)).record) ++
        [(Notice.summary (Reading.ofTree root).sets.length
          (root.allNamed "Schema").length).record] := by
  intro h
  have hread : (Reading.ofTree nestedContainers).log.head?.map LogRecord.message =
      some "Entity set outer references unknown type 'A.T', skipping" := by
    cbv
  have horder : (Reading.ofTree nestedContainers).log.head?.map LogRecord.message =
      some "Entity set inner references unknown type 'A.T', skipping" := by
    rw [h nestedContainers]
    cbv
  exact absurd (hread.symm.trans horder) (by decide)

end ServiceDoc.Csdl
