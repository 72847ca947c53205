/-!
# Element trees

A document as its readers see it: elements with attributes, and text between them. Names are pairs
of a namespace and a local part; how a prefix spelled the namespace is forgotten. An attribute
without a prefix has no namespace, whatever that of its element.
-/

namespace ServiceDoc.Xml

structure Name where
  /-- The address of the namespace, if the name is in one. -/
  space : Option String := none
  localPart : String
  deriving DecidableEq, Repr

structure Attribute where
  name : Name
  value : String
  deriving DecidableEq, Repr

inductive Node where
  | text (s : String)
  | element (name : Name) (attributes : List Attribute) (children : List Node)
  deriving Repr

namespace Node

def children : Node → List Node
  | text _ => []
  | element _ _ children => children

/-- Whether a node is an element of that local name, in any namespace or none. -/
def isNamed (name : String) : Node → Bool
  | text _ => false
  | element n _ _ => n.localPart = name

/-- The value of the attribute of that name and no namespace. -/
def attribute? (name : String) : Node → Option String
  | text _ => none
  | element _ attributes _ => (attributes.find? (·.name = ⟨none, name⟩)).map Attribute.value

def childrenNamed (name : String) (n : Node) : List Node := n.children.filter (isNamed name)

mutual

/-- The elements of that local name in a tree, its root included, in document order. -/
def allNamed (name : String) : Node → List Node
  | text _ => []
  | element n attributes children =>
    if n.localPart = name then element n attributes children :: allNamedBelow name children
    else allNamedBelow name children

/-- The elements of that local name in a list of trees, in document order. -/
def allNamedBelow (name : String) : List Node → List Node
  | [] => []
  | n :: ns => allNamed name n ++ allNamedBelow name ns

end

end Node

end ServiceDoc.Xml
