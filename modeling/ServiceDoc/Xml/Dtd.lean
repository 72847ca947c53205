import ServiceDoc.Xml.Scan
/-!
# Declarations

What the prolog of a document declares, as far as the tree depends on it: the entities, and for each
element the attributes that have a type or a default. The first declaration of a name counts.

External declarations are never read. Once the prolog has referred to some, an undeclared entity is
no fault, since they may declare it; only a document that declares itself standalone takes no notice
of them.
-/

namespace ServiceDoc.Xml

/-- What an entity stands for. -/
inductive EntityValue where
  /-- A text of its own. -/
  | text (cs : List Char)
  /-- A text outside the document. -/
  | external
  /-- Data outside the document that is no text. -/
  | unparsed
  deriving DecidableEq, Repr

structure Entity where
  name : List Char
  value : EntityValue
  deriving DecidableEq, Repr

def predefinedEntity? (name : List Char) : Option Char :=
  if name = ['l', 't'] then some '<'
  else if name = ['g', 't'] then some '>'
  else if name = ['a', 'm', 'p'] then some '&'
  else if name = ['q', 'u', 'o', 't'] then some '\x22'
  else if name = ['a', 'p', 'o', 's'] then some '\x27'
  else none

structure DeclaredAttribute where
  name : List Char
  /-- Whether its values are lists of tokens, in which single blanks separate. -/
  tokenized : Bool
  /-- The value where a tag does not give one. -/
  value? : Option (List Char)
  deriving DecidableEq, Repr

structure Dtd where
  entities : List Entity := []
  /-- The declared attributes of each element, in the order of their declaration. -/
  attributes : List (List Char × List DeclaredAttribute) := []
  /-- Whether the document declares itself standalone. -/
  standalone : Bool := false
  /-- Whether there may be declarations outside the document. -/
  hasExternal : Bool := false
  /-- Whether declarations are passed over, as unread ones may precede them. -/
  passesOver : Bool := false
  deriving Repr

namespace Dtd

/-- Whether a reference to an undeclared entity is a fault. -/
def isComplete (d : Dtd) : Bool := d.standalone || !d.hasExternal

def attributesOf (d : Dtd) (element : List Char) : List DeclaredAttribute :=
  (d.attributes.lookup element).getD []

/-- Declares an entity, unless its name is taken. -/
def addEntity (d : Dtd) (e : Entity) : Dtd :=
  if (predefinedEntity? e.name).isSome || d.entities.any (·.name = e.name) then d
  else { d with entities := e :: d.entities }

/-- The list of an element's attributes after one more declaration. A default value is dropped where
the attribute is declared already. -/
def appendAttribute (as : List DeclaredAttribute) (a : DeclaredAttribute) :
    List DeclaredAttribute :=
  if a.value?.isSome && as.any (·.name = a.name) then as else as ++ [a]

/-- The lists of all elements' attributes after one more declaration. -/
def declareAttribute (element : List Char) (a : DeclaredAttribute) :
    List (List Char × List DeclaredAttribute) → List (List Char × List DeclaredAttribute)
  | [] => [(element, [a])]
  | (e, as) :: r =>
    if e = element then (e, appendAttribute as a) :: r
    else (e, as) :: declareAttribute element a r

def addAttribute (d : Dtd) (element : List Char) (a : DeclaredAttribute) : Dtd :=
  { d with attributes := declareAttribute element a d.attributes }

end Dtd

/-- The entities that may still be referred to inside the text of one of them. -/
def withoutEntity (name : List Char) (es : List Entity) : List Entity :=
  es.filter (·.name ≠ name)

theorem length_withoutEntity_lt {name : List Char} {es : List Entity} {e : Entity}
    (h : es.find? (·.name = name) = some e) : (withoutEntity name es).length < es.length := by
  have hmem := List.mem_of_find?_eq_some h
  have hname := List.find?_some h
  refine List.length_filter_lt_length_iff_exists.2 ⟨e, hmem, ?_⟩
  simpa using hname

end ServiceDoc.Xml
