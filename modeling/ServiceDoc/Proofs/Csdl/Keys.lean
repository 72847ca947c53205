import ServiceDoc.Proofs.Csdl.Table
import ServiceDoc.Proofs.Xml.Markup
/-!
# Keys of entity types

What the key of an entity type is, told by the places in its element: the references in its key
elements, in document order, and for each the last property that has the name. A reference without
such a property leads to nothing. The properties and the references are collected apart, so it does
not matter how their elements are mixed (`entityType_ofElement`).
-/

namespace ServiceDoc.Csdl

open Xml (Markup Node)

/-- The property at a place in the element of a type, as a child of it. -/
def propertyAt? : List Node → Option Property
  | [p, _] =>
    if p.isNamed "Property" then some ⟨attributeOf "Name" p, attributeOf "Type" p⟩ else none
  | _ => none

/-- The name that is referred to at a place in the element of a type, in a key of it. -/
def referenceNameAt? : List Node → Option String
  | [r, k, _] => if r.isNamed "PropertyRef" ∧ k.isNamed "Key" then some (attributeOf "Name" r) else none
  | _ => none

def propertiesInOrder (element : Node) : List Property :=
  (element.places []).filterMap propertyAt?

def referenceNamesInOrder (element : Node) : List String :=
  (element.places []).filterMap referenceNameAt?

/-- The last of some properties that have a name. -/
def lastNamed (properties : List Property) (name : String) : Option Property :=
  (properties.filter fun p => p.name = name).getLast?

variable (element : Node)

/-! ## Order -/

theorem propertiesInOrder_eq_declaredProperties :
    propertiesInOrder element = declaredProperties element := by
  have hdepth : ∀ place : List Node, 0 + 2 < place.length → propertyAt? place = none
    | [], _ => rfl
    | [_], _ => rfl
    | [_, _], h => absurd h (by simp)
    | _ :: _ :: _ :: _, _ => rfl
  rw [propertiesInOrder, Node.filterMap_places_of_length hdepth,
    Node.choicesWithin_add_two 0 [] element rfl, Node.choicesWithin_one, declaredProperties,
    List.map_eq_flatMap, Node.flatMap_childrenNamed]
  apply List.flatMap_congr
  intro p _
  by_cases h : p.isNamed "Property" <;> simp [propertyAt?, h]

theorem referenceNamesInOrder_eq_keyReferences :
    referenceNamesInOrder element = keyReferences element := by
  have hdepth : ∀ place : List Node, 0 + 3 < place.length → referenceNameAt? place = none
    | [], _ => rfl
    | [_], _ => rfl
    | [_, _], _ => rfl
    | [_, _, _], h => absurd h (by simp)
    | _ :: _ :: _ :: _ :: _, _ => rfl
  rw [referenceNamesInOrder, Node.filterMap_places_of_length hdepth,
    Node.choicesWithin_add_two 1 [] element rfl, keyReferences, List.map_flatMap,
    Node.flatMap_childrenNamed]
  apply List.flatMap_congr
  intro k _
  rw [Node.choicesWithin_add_two 0 [element] k rfl, Node.choicesWithin_one, List.map_eq_flatMap,
    Node.flatMap_childrenNamed]
  by_cases hkey : k.isNamed "Key"
  · rw [if_pos hkey]
    apply List.flatMap_congr
    intro r _
    by_cases href : r.isNamed "PropertyRef" <;> simp [referenceNameAt?, hkey, href]
  · simp [referenceNameAt?, hkey]

/-! ## Members -/

theorem key_entityType :
    (entityType element).key =
      (keyReferences element).filterMap (lastNamed (declaredProperties element)) := by
  apply List.filterMap_congr
  intro name _
  exact get?_propertyTable (declaredProperties element) name

theorem mem_properties_of_mem_key {k : Property} (h : k ∈ (entityType element).key) :
    k ∈ (entityType element).properties := by
  rw [key_entityType] at h
  obtain ⟨name, -, hlast⟩ := List.mem_filterMap.1 h
  exact (mem_of_getLast?_filter hlast).1

/-- A reference leads to a property of its name, if there is one. -/
theorem map_name_lastNamed (properties : List Property) (name : String) :
    (lastNamed properties name).map Property.name =
      Option.guard (fun name => decide (∃ p ∈ properties, p.name = name)) name := by
  cases hlast : lastNamed properties name with
  | none =>
      have hnone : ¬ ∃ p ∈ properties, p.name = name := by
        rintro ⟨p, hp, hname⟩
        obtain ⟨q, hq⟩ := exists_getLast?_filter (p := fun p => p.name = name) hp
          (decide_eq_true hname)
        rw [lastNamed, hq] at hlast
        cases hlast
      simp [Option.guard, hnone]
  | some p =>
      obtain ⟨hp, hname⟩ := mem_of_getLast?_filter hlast
      obtain rfl : p.name = name := of_decide_eq_true hname
      have hsome : ∃ q ∈ properties, q.name = p.name := ⟨p, hp, rfl⟩
      simp [Option.guard, hsome]

/-- A key has the names of its references, without those that lead to nothing. -/
theorem map_name_key :
    (entityType element).key.map Property.name =
      (keyReferences element).filter fun name =>
        ∃ p ∈ (entityType element).properties, p.name = name := by
  rw [key_entityType, List.map_filterMap, ← List.filterMap_eq_filter]
  apply List.filterMap_congr
  intro name _
  exact map_name_lastNamed (declaredProperties element) name

/-! ## Mixed elements -/

/-- The properties and the keys of an element may be mixed in any way. -/
theorem entityType_congr {element element' : Node}
    (hname : attributeOf "Name" element' = attributeOf "Name" element)
    (hproperties : element'.childrenNamed "Property" = element.childrenNamed "Property")
    (hkeys : element'.childrenNamed "Key" = element.childrenNamed "Key") :
    entityType element' = entityType element := by
  rw [entityType, declaredProperties, keyReferences, hname, hproperties, hkeys, entityType,
    declaredProperties, keyReferences]

/-- The properties of a type are those in its element, in document order, and its key has for each
reference in that order the last property that it names. So the members of the key are properties,
the references that name one are all in it, as often and in the order as they stand there, and no
other arrangement of the same properties and the same keys makes a difference. -/
theorem entityType_ofElement :
    (entityType element).properties = propertiesInOrder element ∧
      (entityType element).key =
        (referenceNamesInOrder element).filterMap (lastNamed (propertiesInOrder element)) ∧
      (∀ k ∈ (entityType element).key, k ∈ (entityType element).properties) ∧
      (entityType element).key.map Property.name =
        (referenceNamesInOrder element).filter (fun name =>
          ∃ p ∈ (entityType element).properties, p.name = name) ∧
      ∀ element' : Node, attributeOf "Name" element' = attributeOf "Name" element →
        element'.childrenNamed "Property" = element.childrenNamed "Property" →
        element'.childrenNamed "Key" = element.childrenNamed "Key" →
        entityType element' = entityType element := by
  rw [propertiesInOrder_eq_declaredProperties, referenceNamesInOrder_eq_keyReferences]
  refine ⟨rfl, key_entityType element, ?_, map_name_key element, ?_⟩
  · intro k
    exact mem_properties_of_mem_key element
  · intro element'
    exact entityType_congr

/-- A type with two keys around its properties, two properties of one name, and a reference that
names none. -/
def mixedType : Node :=
  (Markup.pair "EntityType" [("Name", "T")] [
    .pair "Key" [] [
      .single "PropertyRef" [("Name", "q")],
      .single "PropertyRef" [("Name", "x")],
      .single "PropertyRef" [("Name", "p")]],
    .single "Property" [("Name", "p"), ("Type", "Edm.Int32")],
    .single "Property" [("Name", "q"), ("Type", "Edm.Guid")],
    .pair "Key" [] [.single "PropertyRef" [("Name", "p")]],
    .single "Property" [("Name", "p"), ("Type", "Edm.String")]]).node

/-- The same type with its keys at the end. -/
def sortedType : Node :=
  (Markup.pair "EntityType" [("Name", "T")] [
    .single "Property" [("Name", "p"), ("Type", "Edm.Int32")],
    .single "Property" [("Name", "q"), ("Type", "Edm.Guid")],
    .single "Property" [("Name", "p"), ("Type", "Edm.String")],
    .pair "Key" [] [
      .single "PropertyRef" [("Name", "q")],
      .single "PropertyRef" [("Name", "x")],
      .single "PropertyRef" [("Name", "p")]],
    .pair "Key" [] [.single "PropertyRef" [("Name", "p")]]]).node

theorem entityType_ofElement_mixedType :
    (entityType mixedType).key =
        [⟨"q", "Edm.Guid"⟩, ⟨"p", "Edm.String"⟩, ⟨"p", "Edm.String"⟩] ∧
      (∀ k ∈ (entityType mixedType).key, k ∈ (entityType mixedType).properties) ∧
      entityType sortedType = entityType mixedType := by
  obtain ⟨-, hkey, hmem, -, hmixed⟩ := entityType_ofElement mixedType
  refine ⟨?_, hmem, hmixed sortedType rfl rfl rfl⟩
  rw [hkey]
  rfl

end ServiceDoc.Csdl
