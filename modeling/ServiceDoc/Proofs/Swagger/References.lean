import ServiceDoc.Proofs.Json.Members
import ServiceDoc.Proofs.Swagger.PathEntries
import ServiceDoc.Swagger.Document
/-!
# References

The paths of a document and its definitions are built apart from each other, from the same sets.
Here they are found to fit together: what the paths refer to is defined, and what is defined comes
from the sets. Later sets can take over paths and definitions of earlier ones, so the references are
counted item by item first, and it is only then asked which items are left in the document.
-/

namespace ServiceDoc.Swagger

open Csdl

/-- The value that refers to a definition. -/
def referenceTo (name : String) : Json := .str (definitionAddress name)

/-! ## Paths -/

@[simp] theorem references_reference (name : String) :
    (Schema.reference name).toJson.valuesAt "$ref" = [referenceTo name] := by
  simp [Schema.toJson, referenceTo]

@[simp] theorem references_array (items : Schema) :
    (Schema.array items).toJson.valuesAt "$ref" = items.toJson.valuesAt "$ref" := by
  simp [Schema.toJson]

@[simp] theorem references_key (name : String) :
    (Parameter.key name).toJson.valuesAt "$ref" = [] := by
  simp [Parameter.toJson]

@[simp] theorem references_body (name definition : String) :
    (Parameter.body name definition).toJson.valuesAt "$ref" = [referenceTo definition] := by
  simp [Parameter.toJson]

@[simp] theorem references_keyParameters (s : EntitySet) :
    (keyParameters s).flatMap (fun p => p.toJson.valuesAt "$ref") = [] := by
  simp [keyParameters, List.flatMap_map]

@[simp] theorem references_response (description : String) (schema : Schema) :
    (Response.toJson ⟨description, some schema⟩).valuesAt "$ref" =
      schema.toJson.valuesAt "$ref" := by
  simp [Response.toJson]

@[simp] theorem references_empty : Response.empty.toJson.valuesAt "$ref" = [] := by
  simp [Response.toJson, Response.empty]

@[simp] theorem references_unexpected :
    Response.unexpected.toJson.valuesAt "$ref" = [referenceTo errorDefinition] := by
  simp [Response.unexpected]

/-- An operation refers to what its parameters and its success refer to, and to the envelope. -/
theorem references_operation {o : Operation} (h : o.status ≠ "$ref") :
    o.toJson.valuesAt "$ref" =
      (o.parameters.getD []).flatMap (fun p => p.toJson.valuesAt "$ref") ++
        (o.success.toJson.valuesAt "$ref" ++ [referenceTo errorDefinition]) := by
  obtain ⟨id, parameters, status, success⟩ := o
  cases parameters with
  | none => simp [Operation.toJson, h]
  | some ps => simp [Operation.toJson, h, List.flatMap_map]

theorem references_collectionItem (s : EntitySet) :
    (PathItem.toJson (collectionItem s)).valuesAt "$ref" =
      [referenceTo s.qualifiedType, referenceTo errorDefinition, referenceTo s.qualifiedType,
        referenceTo errorDefinition] := by
  simp [PathItem.toJson, collectionItem, references_operation, bodyParameter]

theorem references_instanceItem (s : EntitySet) :
    (PathItem.toJson (instanceItem s)).valuesAt "$ref" =
      [referenceTo s.qualifiedType, referenceTo errorDefinition, referenceTo errorDefinition,
        referenceTo s.qualifiedType, referenceTo errorDefinition] := by
  simp [PathItem.toJson, instanceItem, references_operation, bodyParameter]

/-- The paths of a set refer to its type and to the envelope, and no path is taken for a
reference. -/
theorem references_of_mem_pathsOf {s : EntitySet} {e : String × PathItem} (he : e ∈ pathsOf s) :
    e.1 ≠ "$ref" ∧ ∀ r ∈ e.2.toJson.valuesAt "$ref",
      r = referenceTo s.qualifiedType ∨ r = referenceTo errorDefinition := by
  rcases mem_pathsOf he with rfl | rfl
  · constructor
    · intro h
      simpa [collectionPath] using congrArg String.toList h
    · intro r hr
      rw [references_collectionItem] at hr
      simp only [List.mem_cons, List.not_mem_nil, or_false] at hr
      rcases hr with hr | hr | hr | hr <;> simp [hr]
  · constructor
    · intro h
      simpa [instancePath] using congrArg String.toList h
    · intro r hr
      rw [references_instanceItem] at hr
      simp only [List.mem_cons, List.not_mem_nil, or_false] at hr
      rcases hr with hr | hr | hr | hr | hr <;> simp [hr]

theorem mem_entries_paths {sets : List EntitySet} {e : String × PathItem}
    (he : e ∈ (paths sets).entries) : ∃ s ∈ sets, e ∈ pathsOf s :=
  List.mem_flatMap.1 (OrderedMap.mem_of_get?_ofList ((OrderedMap.get?_eq_some_iff _ _ _).2 he))

theorem mem_references_paths {sets : List EntitySet} {r : Json} :
    r ∈ (Document.pathsJson (paths sets)).valuesAt "$ref" ↔
      ∃ e ∈ (paths sets).entries, r ∈ e.2.toJson.valuesAt "$ref" := by
  rw [Document.pathsJson, Json.valuesAt_obj, List.flatMap_map, List.mem_flatMap]
  have hentry (e : String × PathItem) (he : e ∈ (paths sets).entries) :
      (if e.1 = "$ref" then [e.2.toJson] else []) = [] := by
    obtain ⟨s, -, hs⟩ := mem_entries_paths he
    rw [if_neg (references_of_mem_pathsOf hs).1]
  constructor
  · rintro ⟨e, he, hr⟩
    rw [hentry e he, List.nil_append] at hr
    exact ⟨e, he, hr⟩
  · rintro ⟨e, he, hr⟩
    refine ⟨e, he, ?_⟩
    rw [hentry e he, List.nil_append]
    exact hr

/-! ## Definitions -/

/-- A qualified name has a full stop, so it is never the name of the envelope. -/
theorem qualifiedType_ne_errorDefinition (s : EntitySet) : s.qualifiedType ≠ errorDefinition := by
  intro h
  have hdot : '.' ∈ s.qualifiedType.toList := by
    simp [EntitySet.qualifiedType, qualify]
  rw [h] at hdot
  simp [errorDefinition] at hdot

theorem mem_keys_definitions {sets : List EntitySet} {k : String} :
    k ∈ (definitions sets).keys ↔ k = errorDefinition ∨ ∃ s ∈ sets, s.qualifiedType = k := by
  rw [definitions, OrderedMap.mem_keys_ofList, List.map_cons, List.mem_cons, List.map_map,
    List.mem_map]
  rfl

/-- The envelope comes first, whatever the sets are. -/
theorem head?_definitions (sets : List EntitySet) :
    (definitions sets).entries.head? = some (errorDefinition, Schema.error) := by
  rw [definitions, OrderedMap.ofList, OrderedMap.insertAll_cons]
  apply OrderedMap.head?_entries_insertAll
  · rfl
  · intro w hw
    obtain ⟨s, -, rfl⟩ := List.mem_map.1 hw
    exact qualifiedType_ne_errorDefinition s

/-- Every other definition is that of the last set of its type. -/
theorem get?_definitions (sets : List EntitySet) {k : String} (hk : k ≠ errorDefinition) :
    (definitions sets).get? k =
      ((sets.filter fun s => s.qualifiedType = k).getLast?).map fun s =>
        Schema.ofEntityType s.entityType := by
  rw [definitions, OrderedMap.get?_ofList, List.reverse_cons, List.lookup_append,
    lookup_cons_eq_ite, if_neg hk, List.lookup_nil, Option.or_none, ← OrderedMap.get?_ofList,
    OrderedMap.get?_ofList_map EntitySet.qualifiedType]

theorem exists_key_of_mem_references {sets : List EntitySet} {r : Json}
    (hr : r ∈ (Document.pathsJson (paths sets)).valuesAt "$ref") :
    ∃ k ∈ (definitions sets).keys, r = referenceTo k := by
  obtain ⟨e, he, hr⟩ := mem_references_paths.1 hr
  obtain ⟨s, hs, he⟩ := mem_entries_paths he
  rcases (references_of_mem_pathsOf he).2 r hr with hr | hr
  · exact ⟨s.qualifiedType, mem_keys_definitions.2 (Or.inr ⟨s, hs, rfl⟩), hr⟩
  · exact ⟨errorDefinition, mem_keys_definitions.2 (Or.inl rfl), hr⟩

/-! ## Sets that do not collide -/

theorem referenceTo_mem_references {sets : List EntitySet}
    (hnames : (sets.map EntitySet.name).Nodup) (hplain : ∀ s ∈ sets, '(' ∉ s.name.toList)
    {k : String} (hk : k ∈ (definitions sets).keys) (hne : k ≠ errorDefinition) :
    referenceTo k ∈ (Document.pathsJson (paths sets)).valuesAt "$ref" := by
  rcases mem_keys_definitions.1 hk with hk | ⟨s, hs, rfl⟩
  · exact absurd hk hne
  · have hget := get?_paths_of_mem_pathsOf hnames hplain hs List.mem_cons_self
    refine mem_references_paths.2 ⟨_, (OrderedMap.get?_eq_some_iff _ _ _).1 hget, ?_⟩
    rw [references_collectionItem]
    exact List.mem_cons_self

/-! ## Documents -/

theorem at?_paths (sets : List EntitySet) (options : Options) :
    (Document.ofSets sets options).toJson.at? ["paths"] =
      some (Document.pathsJson (paths sets)) := by
  simp [Document.toJson, Document.ofSets]

theorem at?_definitions (sets : List EntitySet) (options : Options) :
    (Document.ofSets sets options).toJson.at? ["definitions"] =
      some (Document.definitionsJson (definitions sets)) := by
  simp [Document.toJson, Document.ofSets]

theorem keys_definitionsJson (definitions : OrderedMap Schema) :
    (definitions.entries.map fun e => (e.1, e.2.toJson)).map Prod.fst = definitions.keys := by
  rw [List.map_map]
  rfl

/-- The references of a document are closed. The definitions are the envelope, which comes first, and
the types of the sets, each described as by the last set of that type. Every reference of the paths
leads to one of them, and all but the envelope are referred to if no path of a set can be taken by
another one. -/
theorem references_ofSets (sets : List EntitySet) (options : Options) :
    ∃ paths definitions,
      (Document.ofSets sets options).toJson.at? ["paths"] = some paths ∧
      (Document.ofSets sets options).toJson.at? ["definitions"] = some (.obj definitions) ∧
      (definitions.map Prod.fst).Nodup ∧
      definitions.head? = some ("Error", Schema.error.toJson) ∧
      (∀ k, k ∈ definitions.map Prod.fst ↔ k = "Error" ∨ ∃ s ∈ sets, s.qualifiedType = k) ∧
      (∀ r ∈ paths.valuesAt "$ref", ∃ k ∈ definitions.map Prod.fst,
        r = .str ("#/definitions/" ++ k)) ∧
      (∀ e ∈ definitions, e.1 ≠ "Error" → ∃ s,
        (sets.filter fun t => t.qualifiedType = e.1).getLast? = some s ∧
          e.2 = (Schema.ofEntityType s.entityType).toJson) ∧
      ((sets.map EntitySet.name).Nodup → (∀ s ∈ sets, '(' ∉ s.name.toList) →
        ∀ k ∈ definitions.map Prod.fst, k ≠ "Error" →
          .str ("#/definitions/" ++ k) ∈ paths.valuesAt "$ref") := by
  refine ⟨_, _, at?_paths sets options, at?_definitions sets options, ?_, ?_, ?_, ?_, ?_, ?_⟩
  · rw [keys_definitionsJson]
    exact (definitions sets).keys_nodup
  · rw [List.head?_map, head?_definitions]
    rfl
  · intro k
    rw [keys_definitionsJson]
    exact mem_keys_definitions
  · intro r hr
    rw [keys_definitionsJson]
    exact exists_key_of_mem_references hr
  · intro e he hne
    obtain ⟨d, hd, rfl⟩ := List.mem_map.1 he
    have hget := (OrderedMap.get?_eq_some_iff _ _ _).2 hd
    rw [get?_definitions sets hne, Option.map_eq_some_iff] at hget
    obtain ⟨s, hs, hschema⟩ := hget
    exact ⟨s, hs, congrArg Schema.toJson hschema.symm⟩
  · intro hnames hplain k hk hne
    rw [keys_definitionsJson] at hk
    exact referenceTo_mem_references hnames hplain hk hne

/-- Two sets of one type that describe it differently. The first has a key, and the name of the type
is that of the envelope. -/
def rivalSets : List EntitySet :=
  [⟨"As", "", ⟨"Error", [⟨"p", "Edm.Int32"⟩], [⟨"p", "Edm.Int32"⟩]⟩⟩,
    ⟨"$ref", "", ⟨"Error", [], []⟩⟩]

theorem references_ofSets_rivalSets :
    (rivalSets.map EntitySet.name).Nodup ∧ (∀ s ∈ rivalSets, '(' ∉ s.name.toList) ∧
      ∃ paths, (Document.ofSets rivalSets {}).toJson.at? ["paths"] = some paths ∧
        .str "#/definitions/.Error" ∈ paths.valuesAt "$ref" := by
  have hnames : (rivalSets.map EntitySet.name).Nodup := by
    simp [rivalSets]
  have hplain : ∀ s ∈ rivalSets, '(' ∉ s.name.toList := by
    simp [rivalSets]
  obtain ⟨paths, definitions, hpaths, -, -, -, hkeys, -, -, hused⟩ :=
    references_ofSets rivalSets {}
  refine ⟨hnames, hplain, paths, hpaths, ?_⟩
  have hkey : ".Error" ∈ definitions.map Prod.fst :=
    (hkeys ".Error").2 (Or.inr ⟨⟨"$ref", "", ⟨"Error", [], []⟩⟩, by simp [rivalSets], rfl⟩)
  exact hused hnames hplain ".Error" hkey (by decide)

end ServiceDoc.Swagger
