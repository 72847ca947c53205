import ServiceDoc.Proofs.Csdl.Resolution
import ServiceDoc.Proofs.Swagger.References
/-!
# Keys and schemas

What a document says about the keys of the sets that are read. Three tables decide on their own what
counts where a name comes up more than once: that of the declared types, that of the properties of a
type, and the properties of a schema. In all of them the last one counts, and the definitions have
one more such rule for sets of one type. So a key property is always described by its own type, and
how it is written in a path agrees with that description.
-/

namespace ServiceDoc.Swagger

open Csdl
open Xml (Node Markup)

/-! ## Properties -/

/-- A key is written bare just if its type is described as an integer or as a number of double
precision. -/
theorem isBareKey_iff (type : String) :
    DataType.isBareKey type ↔
      (DataType.ofPrimitive type).type = .integer ∨
        (DataType.ofPrimitive type).type = .number ∧
          (DataType.ofPrimitive type).format = some "double" := by
  rw [DataType.ofPrimitive]
  cases hlookup : DataType.table.lookup type with
  | none =>
      have hbare : ∀ b ∈ DataType.bareKeyTypes, DataType.table.lookup b ≠ none := by
        decide
      have hnot : DataType.isBareKey type = false := by
        rw [Bool.eq_false_iff, DataType.isBareKey, ne_eq, List.contains_iff_mem]
        intro hmem
        exact hbare type hmem hlookup
      simp [hnot]
  | some d =>
      have htable : ∀ e ∈ DataType.table, DataType.isBareKey e.1 ↔
          e.2.type = .integer ∨ e.2.type = .number ∧ e.2.format = some "double" := by
        decide
      obtain ⟨before, after, hmem, -⟩ := List.lookup_eq_some_iff.1 hlookup
      exact htable (type, d) (by rw [hmem]; simp)

theorem keySegment_eq_bare_iff (k : Property) :
    keySegment k = "\x7b" ++ k.name ++ "\x7d" ↔ DataType.isBareKey k.type := by
  rw [keySegment]
  by_cases h : DataType.isBareKey k.type
  · simp [h]
  · rw [if_neg h]
    constructor
    · intro heq
      simpa using congrArg String.toList heq
    · intro hbare
      exact absurd hbare h

/-- The description of a type, read as JSON. -/
theorem at?_toJson (d : DataType) :
    d.toJson.at? ["type"] = some (.str d.type.text) ∧
      d.toJson.at? ["format"] = d.format.map Json.str := by
  obtain ⟨type, format⟩ := d
  cases format with
  | none => simp [DataType.toJson]
  | some f => simp [DataType.toJson]

theorem text_eq_integer_iff (w : TypeWord) : w.text = "integer" ↔ w = .integer := by
  cases w <;> decide

theorem text_eq_number_iff (w : TypeWord) : w.text = "number" ↔ w = .number := by
  cases w <;> decide

theorem propertiesToJson_eq_map (properties : List (String × Schema)) :
    Schema.propertiesToJson properties = properties.map fun e => (e.1, e.2.toJson) := by
  induction properties with
  | nil => rfl
  | cons e rest ih =>
      obtain ⟨name, s⟩ := e
      rw [Schema.propertiesToJson, ih, List.map_cons]

theorem at?_ofEntityType (t : EntityType) (name : String) :
    (Schema.ofEntityType t).toJson.at? ["properties", name] =
      ((propertyTable t.properties).get? name).map fun p =>
        (DataType.ofPrimitive p.type).toJson := by
  have hget : (Schema.entityProperties t.properties).get? name =
      ((propertyTable t.properties).get? name).map fun p => DataType.ofPrimitive p.type := by
    rw [get?_propertyTable, Schema.entityProperties,
      OrderedMap.get?_ofList_map Property.name fun p => DataType.ofPrimitive p.type]
  have hmembers : Schema.propertiesToJson
      ((Schema.entityProperties t.properties).entries.map fun e => (e.1, .data e.2)) =
        (Schema.entityProperties t.properties).entries.map fun e => (e.1, e.2.toJson) := by
    rw [propertiesToJson_eq_map, List.map_map]
    rfl
  simp [Schema.ofEntityType, Schema.toJson, hmembers, Json.member?_entries, hget,
    Function.comp_def]

/-! ## Types -/

/-- Sets of one type agree on it where the declared types differ in their qualified names. -/
theorem entityType_eq_of_qualifiedType_eq {root : Node}
    (hd : ((typesBySchema root).map DeclaredType.qualifiedName).Nodup) {s t : EntitySet}
    (hs : s ∈ (Reading.ofTree root).sets) (ht : t ∈ (Reading.ofTree root).sets)
    (h : s.qualifiedType = t.qualifiedType) : s.entityType = t.entityType := by
  obtain ⟨d, hmemd, hspace, htype⟩ := exists_declaredType_of_mem_sets hs
  obtain ⟨e, hmeme, hspace', htype'⟩ := exists_declaredType_of_mem_sets ht
  have hname : d.qualifiedName = e.qualifiedName := by
    rw [EntitySet.qualifiedType, EntitySet.qualifiedType, hspace, htype, hspace', htype'] at h
    exact h
  rw [htype, htype', List.inj_on_of_nodup_map hd hmemd hmeme hname]

/-- The definition of a set that is read is its own type, even if other sets define it again. -/
theorem get?_definitions_of_mem_sets {root : Node}
    (hd : ((typesBySchema root).map DeclaredType.qualifiedName).Nodup) {s : EntitySet}
    (hs : s ∈ (Reading.ofTree root).sets) :
    (definitions (Reading.ofTree root).sets).get? s.qualifiedType =
      some (Schema.ofEntityType s.entityType) := by
  obtain ⟨t, ht⟩ := exists_getLast?_filter (p := fun t => t.qualifiedType = s.qualifiedType) hs
    (decide_eq_true rfl)
  obtain ⟨hmem, hname⟩ := mem_of_getLast?_filter ht
  rw [get?_definitions _ (qualifiedType_ne_errorDefinition s), ht, Option.map_some,
    entityType_eq_of_qualifiedType_eq hd hmem hs (of_decide_eq_true hname)]

theorem at?_definitions_qualifiedType {root : Node}
    (hd : ((typesBySchema root).map DeclaredType.qualifiedName).Nodup) {s : EntitySet}
    (hs : s ∈ (Reading.ofTree root).sets) (options : Options) :
    (Document.ofSets (Reading.ofTree root).sets options).toJson.at?
        ["definitions", s.qualifiedType] =
      some (Schema.ofEntityType s.entityType).toJson := by
  have hget := get?_definitions_of_mem_sets hd hs
  simp [Document.toJson, Document.ofSets, Document.definitionsJson, Json.member?_entries, hget]

/-- Where no two declared types have the same qualified name, the document of the sets that are read
defines each of them by its own type. A key property has the description of its own type there,
even if others share its name, and is written bare just if the description says integer, or number
in the format double. -/
theorem definition_of_mem_sets {root : Node}
    (hd : ((typesBySchema root).map DeclaredType.qualifiedName).Nodup) {s : EntitySet}
    (hs : s ∈ (Reading.ofTree root).sets) (options : Options) :
    (Document.ofSets (Reading.ofTree root).sets options).toJson.at?
        ["definitions", s.qualifiedType] =
      some (Schema.ofEntityType s.entityType).toJson ∧
    ∀ k ∈ s.entityType.key, ∃ published,
      (Schema.ofEntityType s.entityType).toJson.at? ["properties", k.name] = some published ∧
      published = (DataType.ofPrimitive k.type).toJson ∧
      (keySegment k = "\x7b" ++ k.name ++ "\x7d" ↔
        published.at? ["type"] = some (.str "integer") ∨
          published.at? ["type"] = some (.str "number") ∧
            published.at? ["format"] = some (.str "double")) := by
  refine ⟨at?_definitions_qualifiedType hd hs options, ?_⟩
  intro k hk
  refine ⟨(DataType.ofPrimitive k.type).toJson, ?_, rfl, ?_⟩
  · obtain ⟨d, -, -, htype⟩ := exists_declaredType_of_mem_sets hs
    rw [htype] at hk ⊢
    rw [at?_ofEntityType, get?_propertyTable_of_mem_key hk, Option.map_some]
  · obtain ⟨htype, hformat⟩ := at?_toJson (DataType.ofPrimitive k.type)
    rw [keySegment_eq_bare_iff, isBareKey_iff, htype, hformat]
    simp [text_eq_integer_iff, text_eq_number_iff]

/-- A type with two properties of one name, and two sets of it that name it by the namespace and by
the alias of its schema. -/
def sharedNames : Node :=
  (Markup.pair "Schema" [("Namespace", "B"), ("Alias", "b")] [
    .pair "EntityType" [("Name", "T")] [
      .pair "Key" [] [.single "PropertyRef" [("Name", "id")]],
      .single "Property" [("Name", "id"), ("Type", "Edm.String")],
      .single "Property" [("Name", "id"), ("Type", "Edm.Int32")]],
    .pair "EntityContainer" [] [
      .single "EntitySet" [("Name", "Ts"), ("EntityType", "b.T")],
      .single "EntitySet" [("Name", "Us"), ("EntityType", "B.T")]]]).node

theorem definition_of_mem_sets_sharedNames :
    ((typesBySchema sharedNames).map DeclaredType.qualifiedName).Nodup ∧
      ∃ s ∈ (Reading.ofTree sharedNames).sets, s.name = "Ts" ∧ ∃ k ∈ s.entityType.key,
        (Schema.ofEntityType s.entityType).toJson.at? ["properties", "id"] =
            some (.obj [("type", .str "integer"), ("format", .str "int32")]) ∧
          keySegment k = "\x7bid\x7d" := by
  have hnames : (typesBySchema sharedNames).map DeclaredType.qualifiedName = ["B.T"] := by
    rfl
  have hnodup : ((typesBySchema sharedNames).map DeclaredType.qualifiedName).Nodup := by
    rw [hnames]
    simp
  let id : Property := ⟨"id", "Edm.Int32"⟩
  let type : EntityType := ⟨"T", [⟨"id", "Edm.String"⟩, id], [id]⟩
  have hsets : (Reading.ofTree sharedNames).sets = [⟨"Ts", "B", type⟩, ⟨"Us", "B", type⟩] := by
    rfl
  have hs : ⟨"Ts", "B", type⟩ ∈ (Reading.ofTree sharedNames).sets := by
    rw [hsets]
    exact List.mem_cons_self
  have hk : id ∈ type.key := List.mem_cons_self
  obtain ⟨published, hpublished, hdata, hsegment⟩ := (definition_of_mem_sets hnodup hs {}).2 id hk
  subst hdata
  exact ⟨hnodup, _, hs, rfl, id, hk, hpublished, hsegment.2 (Or.inl rfl)⟩

end ServiceDoc.Swagger
