import ServiceDoc.Proofs.Csdl.Keys
import ServiceDoc.Proofs.OrderedMap.FirstWrite
import ServiceDoc.Proofs.Swagger.Agreement
/-!
# Described properties

The schema of an entity type describes each name among its properties once: in the place of the
first property of that name, and as the type of the last one (`toJson_ofEntityType`). So a type
whose names are distinct is described property by property.
-/

namespace ServiceDoc.Swagger

open Csdl

/-- How a property is described where no other one has its name. -/
def described (p : Property) : String × Json := (p.name, (DataType.ofPrimitive p.type).toJson)

/-- The members that describe the properties of a type. -/
def propertyMembers (properties : List Property) : List (String × Json) :=
  (Schema.entityProperties properties).entries.map fun e => (e.1, e.2.toJson)

theorem toJson_ofEntityType_eq (t : EntityType) :
    (Schema.ofEntityType t).toJson =
      .obj [("type", .str "object"), ("properties", .obj (propertyMembers t.properties))] := by
  rw [Schema.ofEntityType, Schema.toJson, propertiesToJson_eq_map, List.map_map]
  rfl

theorem names_propertyMembers (properties : List Property) :
    (propertyMembers properties).map Prod.fst = (Schema.entityProperties properties).keys := by
  rw [propertyMembers, List.map_map]
  rfl

theorem names_writes (properties : List Property) :
    (properties.map fun p => (p.name, DataType.ofPrimitive p.type)).map Prod.fst =
      properties.map Property.name := by
  rw [List.map_map]
  rfl

theorem mem_names_propertyMembers_iff (properties : List Property) (name : String) :
    name ∈ (propertyMembers properties).map Prod.fst ↔ name ∈ properties.map Property.name := by
  rw [names_propertyMembers, Schema.entityProperties, OrderedMap.mem_keys_ofList, names_writes]

theorem pairwise_names_propertyMembers (properties : List Property) :
    ((propertyMembers properties).map Prod.fst).Pairwise fun a b =>
      (properties.map Property.name).idxOf a < (properties.map Property.name).idxOf b := by
  have h := OrderedMap.pairwise_idxOf_keys_ofList
    (properties.map fun p => (p.name, DataType.ofPrimitive p.type))
  rwa [names_writes, ← Schema.entityProperties, ← names_propertyMembers] at h

/-- A member describes the last property of its name. -/
theorem exists_lastNamed_of_mem_propertyMembers {properties : List Property} {e : String × Json}
    (he : e ∈ propertyMembers properties) :
    ∃ p, lastNamed properties e.1 = some p ∧ e.2 = (DataType.ofPrimitive p.type).toJson := by
  obtain ⟨⟨name, d⟩, hd, rfl⟩ := List.mem_map.1 he
  have hget : (Schema.entityProperties properties).get? name = some d :=
    (OrderedMap.get?_eq_some_iff _ _ _).2 hd
  rw [Schema.entityProperties,
    OrderedMap.get?_ofList_map Property.name fun p => DataType.ofPrimitive p.type] at hget
  obtain ⟨p, hlast, rfl⟩ := Option.map_eq_some_iff.1 hget
  exact ⟨p, hlast, rfl⟩

theorem propertyMembers_of_nodup {properties : List Property}
    (h : (properties.map Property.name).Nodup) :
    propertyMembers properties = properties.map described := by
  rw [propertyMembers, Schema.entityProperties,
    OrderedMap.entries_ofList_of_nodup (by rwa [names_writes]), List.map_map]
  rfl

/-- The schema of a type is an object with one member for each name among its properties, in the
order of their first occurrences, and each member describes the last property of its name. If the
names are distinct, these are all properties, in their order, each with its own description. -/
theorem toJson_ofEntityType (t : EntityType) :
    ∃ members, (Schema.ofEntityType t).toJson =
        .obj [("type", .str "object"), ("properties", .obj members)] ∧
      (members.map Prod.fst).Nodup ∧
      (∀ name, name ∈ members.map Prod.fst ↔ name ∈ t.properties.map Property.name) ∧
      ((members.map Prod.fst).Pairwise fun a b =>
        (t.properties.map Property.name).idxOf a < (t.properties.map Property.name).idxOf b) ∧
      (∀ e ∈ members, ∃ p, lastNamed t.properties e.1 = some p ∧
        e.2 = (DataType.ofPrimitive p.type).toJson) ∧
      ((t.properties.map Property.name).Nodup →
        members = t.properties.map fun p => (p.name, (DataType.ofPrimitive p.type).toJson)) := by
  refine ⟨propertyMembers t.properties, toJson_ofEntityType_eq t, ?_, ?_, ?_, ?_, ?_⟩
  · rw [names_propertyMembers]
    exact (Schema.entityProperties t.properties).keys_nodup
  · exact mem_names_propertyMembers_iff t.properties
  · exact pairwise_names_propertyMembers t.properties
  · exact fun e he => exists_lastNamed_of_mem_propertyMembers he
  · exact propertyMembers_of_nodup

/-- A type with a name that is used twice, around another one. -/
def enclosingType : EntityType :=
  ⟨"T", [⟨"id", "Edm.Int32"⟩, ⟨"size", "Edm.Byte"⟩, ⟨"id", "Edm.Double"⟩], []⟩

/-- The same type without the first of the two. -/
def distinctType : EntityType := ⟨"T", [⟨"size", "Edm.Byte"⟩, ⟨"id", "Edm.Double"⟩], []⟩

theorem toJson_ofEntityType_enclosingType :
    (∃ members, (Schema.ofEntityType enclosingType).toJson =
        .obj [("type", .str "object"), ("properties", .obj members)] ∧
      ("id", Json.obj [("type", .str "number"), ("format", .str "double")]) ∈ members) ∧
    (distinctType.properties.map Property.name).Nodup ∧
    (Schema.ofEntityType distinctType).toJson =
      .obj [("type", .str "object"), ("properties", .obj
        [("size", .obj [("type", .str "string"), ("format", .str "byte")]),
         ("id", .obj [("type", .str "number"), ("format", .str "double")])])] := by
  obtain ⟨members, hjson, -, hnames, -, hlast, -⟩ := toJson_ofEntityType enclosingType
  obtain ⟨e, he, hid⟩ := List.mem_map.1 ((hnames "id").2 (by decide))
  obtain ⟨p, hp, hvalue⟩ := hlast e he
  have hdouble : lastNamed enclosingType.properties "id" = some ⟨"id", "Edm.Double"⟩ := by
    decide
  rw [hid, hdouble] at hp
  obtain rfl := Option.some.inj hp
  have hdistinct : (distinctType.properties.map Property.name).Nodup := by decide
  obtain ⟨members', hjson', -, -, -, -, hall⟩ := toJson_ofEntityType distinctType
  refine ⟨⟨members, hjson, ?_⟩, hdistinct, ?_⟩
  · rw [← hid]
    change (e.1, (DataType.ofPrimitive "Edm.Double").toJson) ∈ members
    rwa [← hvalue]
  · rw [hjson', hall hdistinct]
    rfl

end ServiceDoc.Swagger
