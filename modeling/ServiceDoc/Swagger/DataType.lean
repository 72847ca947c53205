import ServiceDoc.Json.Basic
/-!
# Data types of properties

How a primitive type of the service is described in a document, and which of them are written bare
in a key.
-/

namespace ServiceDoc.Swagger

inductive TypeWord where
  | integer
  | number
  | boolean
  | string
  deriving DecidableEq, Repr

def TypeWord.text : TypeWord → String
  | .integer => "integer"
  | .number => "number"
  | .boolean => "boolean"
  | .string => "string"

/-- A type word, and a format where there is one. -/
structure DataType where
  type : TypeWord
  format : Option String := none
  deriving DecidableEq, Repr

namespace DataType

/-- The description of each primitive type that has one of its own. -/
def table : List (String × DataType) :=
  [("Edm.Int16", ⟨.integer, some "int32"⟩),
   ("Edm.Int32", ⟨.integer, some "int32"⟩),
   ("Edm.Int64", ⟨.integer, some "int64"⟩),
   ("Edm.Boolean", ⟨.boolean, none⟩),
   ("Edm.Byte", ⟨.string, some "byte"⟩),
   ("Edm.Date", ⟨.string, some "date"⟩),
   ("Edm.DateTimeOffset", ⟨.string, some "date-time"⟩),
   ("Edm.Double", ⟨.number, some "double"⟩),
   ("Edm.Single", ⟨.number, some "single"⟩)]

/-- The description of a primitive type; any other name is a plain string. -/
def ofPrimitive (name : String) : DataType := (table.lookup name).getD ⟨.string, none⟩

def bareKeyTypes : List String := ["Edm.Int16", "Edm.Int32", "Edm.Int64", "Edm.Double"]

/-- Whether a key of that type is written without quotes. -/
def isBareKey (name : String) : Bool := bareKeyTypes.contains name

/-- The members of a description: the type, then the format if there is one. -/
def toJson (d : DataType) : Json :=
  match d.format with
  | none => .obj [("type", .str d.type.text)]
  | some f => .obj [("type", .str d.type.text), ("format", .str f)]

end DataType

end ServiceDoc.Swagger
