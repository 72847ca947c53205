import ServiceDoc.Csdl.Model
import ServiceDoc.Log
import ServiceDoc.OrderedMap
import ServiceDoc.Text.Quoted
import ServiceDoc.Xml.Document
/-!
# Reading metadata

The entity sets that a metadata document publishes. Elements are recognised by their local names,
wherever the schemas stand; the namespaces of the format differ between its versions and play no
part.

Types are known under the namespace of their schema and under its alias, and the last declaration of
a name counts. All schemas declare their types before any set is read, so a set may refer to a type
that is declared after it. What a document refers to without declaring it is left out with a
warning.
-/

namespace ServiceDoc.Csdl

open Xml (Node)

/-- What a reading tells about its document. -/
inductive Notice where
  /-- A key refers to a property that its type does not declare. -/
  | undeclaredKey (property type : String)
  /-- A set refers to a type that no schema declares. -/
  | unknownType (set type : String)
  /-- The numbers of sets that were read and of schemas. -/
  | summary (sets schemas : Nat)
  deriving DecidableEq, Repr

def Notice.record : Notice → LogRecord
  | undeclaredKey property type =>
    ⟨.warning, "odata_swagger.loader", "Key property " ++ Text.quoted property
      ++ " is not declared on " ++ type ++ ", skipping"⟩
  | unknownType set type =>
    ⟨.warning, "odata_swagger.loader", "Entity set " ++ set ++ " references unknown type "
      ++ Text.quoted type ++ ", skipping"⟩
  | summary sets schemas =>
    ⟨.debug, "odata_swagger.loader", "Parsed " ++ toString sets ++ " entity sets from "
      ++ toString schemas ++ " schemas"⟩

/-- The value of an attribute, empty where it is absent. -/
def attributeOf (name : String) (n : Node) : String := (n.attribute? name).getD ""

/-- Whether an error tells of a document that is invalid, and not of one in an encoding that cannot
be used. -/
def isInvalid : Xml.DocumentError → Bool
  | .fault _ _ => true
  | .charset (.refused _) => true
  | .charset _ => false

def errorMessage (e : Xml.DocumentError) : String :=
  if isInvalid e then "Invalid metadata document: " ++ e.message else e.message

/-! ## Types -/

def declaredProperties (element : Node) : List Property :=
  (element.childrenNamed "Property").map fun n => ⟨attributeOf "Name" n, attributeOf "Type" n⟩

/-- The names that the key of a type refers to, over all its key elements. -/
def keyReferences (element : Node) : List String :=
  ((element.childrenNamed "Key").flatMap (Node.childrenNamed "PropertyRef")).map
    (attributeOf "Name")

/-- Properties by name; of two with one name the last counts. -/
def propertyTable (properties : List Property) : OrderedMap Property :=
  .ofList (properties.map fun p => (p.name, p))

/-- The entity type that an element declares. References to undeclared properties are left out of
the key. -/
def entityType (element : Node) : EntityType :=
  let properties := declaredProperties element
  ⟨attributeOf "Name" element, properties,
    (keyReferences element).filterMap (propertyTable properties).get?⟩

def keyNotices (element : Node) : List Notice :=
  let table := propertyTable (declaredProperties element)
  ((keyReferences element).filter fun name => (table.get? name).isNone).map
    (.undeclaredKey · (attributeOf "Name" element))

structure TypeDeclaration where
  space : String
  alias? : Option String
  type : EntityType
  deriving DecidableEq, Repr

/-- The names that a declared type is known under; an empty alias is none. -/
def TypeDeclaration.names (d : TypeDeclaration) : List String :=
  match d.alias? with
  | none => [qualify d.space d.type.name]
  | some a =>
    if a.isEmpty then [qualify d.space d.type.name]
    else [qualify d.space d.type.name, qualify a d.type.name]

def declarations (schema : Node) : List TypeDeclaration :=
  (schema.childrenNamed "EntityType").map fun element =>
    ⟨attributeOf "Namespace" schema, schema.attribute? "Alias", entityType element⟩

def typeTable (ds : List TypeDeclaration) : OrderedMap TypeDeclaration :=
  .ofList (ds.flatMap fun d => d.names.map fun name => (name, d))

/-! ## Sets -/

def setElements (schema : Node) : List Node :=
  (schema.childrenNamed "EntityContainer").flatMap (Node.childrenNamed "EntitySet")

/-- The set that an element publishes, if its type is declared. Its namespace is that of the schema
which declares the type, whatever name the element uses. -/
def entitySet? (types : OrderedMap TypeDeclaration) (element : Node) : Option EntitySet :=
  (types.get? (attributeOf "EntityType" element)).map fun d =>
    ⟨attributeOf "Name" element, d.space, d.type⟩

def setNotices (types : OrderedMap TypeDeclaration) (elements : List Node) : List Notice :=
  (elements.filter fun n => (entitySet? types n).isNone).map fun n =>
    .unknownType (attributeOf "Name" n) (attributeOf "EntityType" n)

/-! ## Documents -/

/-- What a document publishes, and what there is to tell about it. -/
structure Reading where
  sets : List EntitySet
  notices : List Notice
  deriving DecidableEq, Repr

namespace Reading

def ofTree (root : Node) : Reading :=
  let schemas := root.allNamed "Schema"
  let typeElements := schemas.flatMap (Node.childrenNamed "EntityType")
  let types := typeTable (schemas.flatMap declarations)
  let elements := schemas.flatMap setElements
  let sets := elements.filterMap (entitySet? types)
  ⟨sets, typeElements.flatMap keyNotices ++ setNotices types elements
    ++ [.summary sets.length schemas.length]⟩

/-- Reads a text, whatever encoding it declares. -/
def ofText (text : String) : Except Xml.DocumentError Reading :=
  (Xml.Document.ofText text).map ofTree

/-- Reads bytes in the encoding that they show or declare. -/
def ofBytes (bytes : List UInt8) : Except Xml.DocumentError Reading :=
  (Xml.Document.ofBytes bytes).map ofTree

def log (r : Reading) : List LogRecord := r.notices.map Notice.record

end Reading

end ServiceDoc.Csdl
