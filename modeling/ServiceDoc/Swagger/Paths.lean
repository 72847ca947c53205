import ServiceDoc.Swagger.Schema
/-!
# Paths

Every entity set has a collection path, and an instance path as well if its type has a key. The
instance path holds one placeholder per key property, in quotes unless the property's type is
written bare, and its operations take the same properties as parameters in the same order.
-/

namespace ServiceDoc.Swagger

open Csdl

inductive Parameter where
  /-- A key property, taken from the path. -/
  | key (name : String)
  /-- An entity in the body. -/
  | body (name : String) (definition : String)
  deriving DecidableEq, Repr

namespace Parameter

/-- The members of a parameter; every parameter is required. -/
def toJson : Parameter → Json
  | .key name => .obj [("name", .str name), ("required", .bool true), ("in", .str "path")]
  | .body name definition =>
    .obj [("name", .str name), ("in", .str "body"), ("required", .bool true),
      ("schema", (Schema.reference definition).toJson)]

def name : Parameter → String
  | .key name => name
  | .body name _ => name

/-- Where a parameter is taken from. -/
def place : Parameter → String
  | .key _ => "path"
  | .body _ _ => "body"

end Parameter

/-- What an operation answers: a description, and a schema where there is content. -/
structure Response where
  description : String
  schema : Option Schema := none

def Response.toJson (r : Response) : Json :=
  match r.schema with
  | none => .obj [("description", .str r.description)]
  | some s => .obj [("description", .str r.description), ("schema", s.toJson)]

def Response.unexpected : Response := ⟨"Unexpected error", some (.reference errorDefinition)⟩

def Response.empty : Response := ⟨"Empty response.", none⟩

/-- An operation: its id, its parameters, the status of its one success, and what it answers then.
Every other status has the error envelope. -/
structure Operation where
  id : String
  parameters : Option (List Parameter)
  status : String
  success : Response

/-- The members of an operation; one that takes no parameters has no list of them. -/
def Operation.toJson (o : Operation) : Json :=
  let answers := Json.obj [(o.status, o.success.toJson), ("default", Response.unexpected.toJson)]
  match o.parameters with
  | none => .obj [("operationId", .str o.id), ("responses", answers)]
  | some ps =>
    .obj [("operationId", .str o.id), ("parameters", .arr (ps.map Parameter.toJson)),
      ("responses", answers)]

/-- The operations of a path, each under its method. -/
abbrev PathItem := List (String × Operation)

def PathItem.toJson (item : PathItem) : Json := .obj (item.map fun e => (e.1, e.2.toJson))

/-- One placeholder of an instance path, in quotes unless its type is written bare. -/
def keySegment (p : Property) : String :=
  if DataType.isBareKey p.type then "\x7b" ++ p.name ++ "\x7d" else "'\x7b" ++ p.name ++ "\x7d'"

def collectionPath (s : EntitySet) : String := "/" ++ s.name

def instancePath (s : EntitySet) : String :=
  "/" ++ s.name ++ "(" ++ String.intercalate "," (s.entityType.key.map keySegment) ++ ")"

/-- The parameters that the placeholders of an instance path stand for. -/
def keyParameters (s : EntitySet) : List Parameter := s.entityType.key.map fun p => .key p.name

def bodyParameter (s : EntitySet) : Parameter := .body s.entityType.name s.qualifiedType

/-- The operations on a set: list it, and create an entity in it. -/
def collectionItem (s : EntitySet) : PathItem :=
  let type := s.entityType.name
  [("get", ⟨"get" ++ s.name, none, "200",
      ⟨"List of " ++ type, some (.array (.reference s.qualifiedType))⟩⟩),
   ("post", ⟨"create" ++ type, some [bodyParameter s], "204", .empty⟩)]

/-- The operations on one entity: read, delete and update it. -/
def instanceItem (s : EntitySet) : PathItem :=
  let type := s.entityType.name
  [("get", ⟨"get" ++ type, some (keyParameters s), "200",
      ⟨"A " ++ type ++ ".", some (.reference s.qualifiedType)⟩⟩),
   ("delete", ⟨"delete" ++ type, some (keyParameters s), "204", .empty⟩),
   ("patch", ⟨"update" ++ type, some (keyParameters s ++ [bodyParameter s]), "204", .empty⟩)]

/-- The paths of one set: the collection, and the instance if the type has a key. -/
def pathsOf (s : EntitySet) : List (String × PathItem) :=
  (collectionPath s, collectionItem s) ::
    if s.entityType.key.isEmpty then [] else [(instancePath s, instanceItem s)]

/-- The paths of a document, in the order of the sets. -/
def paths (sets : List EntitySet) : OrderedMap PathItem :=
  OrderedMap.ofList (sets.flatMap pathsOf)

end ServiceDoc.Swagger
