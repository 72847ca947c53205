import ServiceDoc.Swagger.Paths
/-!
# Documents

The Swagger 2.0 document of a list of entity sets: the paths, the definitions, and the envelope
around them.
-/

namespace ServiceDoc.Swagger

open Csdl

/-- Values that are copied into the envelope; one that is absent leaves its member out. -/
structure Options where
  host : Option String := none
  basePath : Option String := none
  deriving DecidableEq, Repr, Inhabited

structure Document where
  options : Options
  paths : OrderedMap PathItem
  definitions : OrderedMap Schema

namespace Document

def ofSets (sets : List EntitySet) (options : Options) : Document :=
  ⟨options, Swagger.paths sets, Swagger.definitions sets⟩

/-- The member of an option, if it is there. -/
def optionMember (name : String) : Option String → List (String × Json)
  | none => []
  | some value => [(name, .str value)]

def title : String := "OData Service"

def pathsJson (paths : OrderedMap PathItem) : Json :=
  .obj (paths.entries.map fun e => (e.1, PathItem.toJson e.2))

def definitionsJson (definitions : OrderedMap Schema) : Json :=
  .obj (definitions.entries.map fun e => (e.1, e.2.toJson))

def toJson (d : Document) : Json :=
  .obj (("swagger", .str "2.0") ::
    (optionMember "host" d.options.host ++
      ("produces", .arr [.str "application/json"]) ::
        (optionMember "basePath" d.options.basePath ++
          [("info", .obj [("title", .str title), ("version", .str "0.0.1")]),
           ("paths", pathsJson d.paths),
           ("definitions", definitionsJson d.definitions)])))

end Document

end ServiceDoc.Swagger
