import ServiceDoc.Xml.Fault
/-!
# Namespaces

Which namespace each prefix stands for. A scope is the list of bindings in force, the innermost
first; the empty prefix is that of names without one, and an empty address takes a namespace away
from them.
-/

namespace ServiceDoc.Xml

abbrev Scope := List (List Char × List Char)

namespace Scope

/-- The address that the prefix `xml` always has. -/
def xmlAddress : List Char := "http://www.w3.org/XML/1998/namespace".toList

def xmlnsAddress : List Char := "http://www.w3.org/2000/xmlns/".toList

def preset : Scope := [(['x', 'm', 'l'], xmlAddress)]

/-- Whether a prefix must not be bound to an address. A closing brace is refused, as it would make
qualified names ambiguous. -/
def bindingFault? (pfx address : List Char) : Option Cause :=
  if address.isEmpty && !pfx.isEmpty then some .undeclaredPrefix
  else if pfx = ['x', 'm', 'l', 'n', 's'] then some .reservedXmlns
  else if address.contains '\x7d' then some .syntaxError
  else if pfx = ['x', 'm', 'l'] then
    if address = xmlAddress then none else some .reservedXml
  else if address = xmlAddress || address = xmlnsAddress then some .reservedUri
  else none

def bind (scope : Scope) (pfx address : List Char) : Except Cause Scope :=
  match bindingFault? pfx address with
  | some cause => .error cause
  | none => .ok ((pfx, address) :: scope)

def default? (scope : Scope) : Option (List Char) :=
  match scope.lookup [] with
  | some (c :: cs) => some (c :: cs)
  | _ => none

end Scope

/-- A name split at its first colon: the prefix, if there is one, and the local part. -/
def splitName (name : List Char) : Option (List Char) × List Char :=
  match name.span (· ≠ ':') with
  | (p, _ :: l) => (some p, l)
  | (l, []) => (none, l)

/-- The prefix that an attribute of that name declares, if it declares one. -/
def declaredPrefix? (name : List Char) : Option (List Char) :=
  match splitName name with
  | (none, l) => if l = ['x', 'm', 'l', 'n', 's'] then some [] else none
  | (some p, l) => if p = ['x', 'm', 'l', 'n', 's'] then some l else none

end ServiceDoc.Xml
