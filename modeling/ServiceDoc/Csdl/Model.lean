/-!
# Entity sets

What a service publishes, as far as a document needs it: each entity set, the namespace that
declares its entity type, and that type with its properties and its key.
-/

namespace ServiceDoc.Csdl

/-- A property of an entity type, with the name of its primitive type. -/
structure Property where
  name : String
  type : String
  deriving DecidableEq, Repr, Inhabited

/-- A record shape; its key is a list of properties. -/
structure EntityType where
  name : String
  properties : List Property := []
  key : List Property := []
  deriving DecidableEq, Repr, Inhabited

structure EntitySet where
  name : String
  /-- The namespace that declares the entity type. -/
  space : String
  entityType : EntityType
  deriving DecidableEq, Repr, Inhabited

def qualify (space name : String) : String := space ++ "." ++ name

def EntitySet.qualifiedType (s : EntitySet) : String := qualify s.space s.entityType.name

end ServiceDoc.Csdl
