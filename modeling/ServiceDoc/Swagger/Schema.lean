import ServiceDoc.OrderedMap
import ServiceDoc.Csdl.Model
import ServiceDoc.Swagger.DataType
/-!
# Schemas

The shapes that a document defines: one object per entity type, and the error envelope that every
operation may answer with. The envelope is the first definition; an entity type cannot take its
name, as a qualified name has a full stop in it.
-/

namespace ServiceDoc.Swagger

open Csdl

/-- A schema: a described value, a reference to a definition, an array, or an object. -/
inductive Schema where
  | data (type : DataType)
  | reference (definition : String)
  | array (items : Schema)
  | object (properties : List (String × Schema))
  deriving Repr

def definitionAddress (name : String) : String := "#/definitions/" ++ name

namespace Schema

mutual
def toJson : Schema → Json
  | .data d => d.toJson
  | .reference name => .obj [("$ref", .str (definitionAddress name))]
  | .array items => .obj [("type", .str "array"), ("items", toJson items)]
  | .object properties =>
    .obj [("type", .str "object"), ("properties", .obj (propertiesToJson properties))]

def propertiesToJson : List (String × Schema) → List (String × Json)
  | [] => []
  | (name, s) :: rest => (name, toJson s) :: propertiesToJson rest
end

/-- The described properties of an entity type: of several with one name the last, in the place of
the first. -/
def entityProperties (properties : List Property) : OrderedMap DataType :=
  OrderedMap.ofList (properties.map fun p => (p.name, DataType.ofPrimitive p.type))

def ofEntityType (t : EntityType) : Schema :=
  .object ((entityProperties t.properties).entries.map fun e => (e.1, .data e.2))

/-- The envelope of an error: a code and a message. -/
def error : Schema :=
  .object [("error", .object
    [("code", .data ⟨.string, none⟩), ("message", .data ⟨.string, none⟩)])]

end Schema

def errorDefinition : String := "Error"

/-- The definitions of a document: the error envelope, then the type of each set. -/
def definitions (sets : List EntitySet) : OrderedMap Schema :=
  OrderedMap.ofList
    ((errorDefinition, Schema.error) ::
      sets.map fun s => (s.qualifiedType, Schema.ofEntityType s.entityType))

end ServiceDoc.Swagger
