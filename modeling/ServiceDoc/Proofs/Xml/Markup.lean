import ServiceDoc.Proofs.OrderedMap.LastWrite
import ServiceDoc.Proofs.Xml.DocumentOrder
import ServiceDoc.Xml.Namespace
/-!
# Written elements

The other direction of reading: an element tree as it is written. `Markup` is a tree of tags without
text between them. It remembers of an element without children whether it is written as one tag or
as two, which the tree of nodes forgets, so `Markup.text` and `Markup.node` are both plain
recursions: the characters of the document, and the node that a reader should make of them.

A document can be written with any names and values for which `Markup.IsWritable` holds: names
without a colon that bind no prefix, attributes that differ in their names, and values of legal
characters only. What may not stand literally in a value is written as a reference.
-/

namespace ServiceDoc.Xml

inductive Markup where
  /-- An element of a single tag, `<name …/>`. -/
  | single (name : String) (attributes : List (String × String))
  /-- An element of a start tag and an end tag. -/
  | pair (name : String) (attributes : List (String × String)) (children : List Markup)

/-! ## Characters -/

/-- A character inside a quoted value: markup, the quote and all blanks but the space are written as
references. -/
def escapeChar (c : Char) : List Char :=
  if c = '&' then "&amp;".toList
  else if c = '<' then "&lt;".toList
  else if c = '\x22' then "&quot;".toList
  else if c = '\t' then "&#9;".toList
  else if c = '\n' then "&#10;".toList
  else if c = '\r' then "&#13;".toList
  else [c]

def referenced : List Char := ['&', '<', '\x22', '\t', '\n', '\r']

theorem escapeChar_of_notMem {c : Char} (h : c ∉ referenced) : escapeChar c = [c] := by
  simp only [referenced, List.mem_cons, List.not_mem_nil, or_false, not_or] at h
  obtain ⟨h1, h2, h3, h4, h5, h6⟩ := h
  rw [escapeChar, if_neg h1, if_neg h2, if_neg h3, if_neg h4, if_neg h5, if_neg h6]

def escape (value : String) : List Char := value.toList.flatMap escapeChar

def isNameChar (c : Char) : Bool := isLegal c && NameRole.of c != .other

def isPlainName : List Char → Bool
  | [] => false
  | c :: cs => isLegal c && NameRole.of c == .start && cs.all isNameChar

/-! ## Tags -/

def attributeBody (a : String × String) : List Char :=
  a.1.toList ++ '=' :: '\x22' :: (escape a.2 ++ ['\x22'])

/-- The attributes of a tag, each behind a space. -/
def attributesText (attributes : List (String × String)) : List Char :=
  attributes.flatMap fun a => ' ' :: attributeBody a

def attributeNodes (attributes : List (String × String)) : List Attribute :=
  attributes.map fun a => ⟨⟨none, a.1⟩, a.2⟩

/-- Attributes that can be written: plain names that differ, none of them declaring a namespace, and
legal values. -/
structure AreWritable (attributes : List (String × String)) : Prop where
  names : ∀ a ∈ attributes, isPlainName a.1.toList ∧ a.1.toList ≠ ['x', 'm', 'l', 'n', 's']
  distinct : (attributes.map Prod.fst).Nodup
  values : ∀ a ∈ attributes, ∀ c ∈ a.2.toList, isLegal c

/-! ## Elements -/

namespace Markup

mutual

/-- The characters of an element. -/
def text : Markup → List Char
  | single name attributes => '<' :: (name.toList ++ (attributesText attributes ++ ['/', '>']))
  | pair name attributes children =>
    '<' :: (name.toList ++ (attributesText attributes ++ '>' ::
      (textBelow children ++ '<' :: '/' :: (name.toList ++ ['>']))))

def textBelow : List Markup → List Char
  | [] => []
  | m :: ms => text m ++ textBelow ms

end

mutual

/-- The node that an element is. -/
def node : Markup → Node
  | single name attributes => .element ⟨none, name⟩ (attributeNodes attributes) []
  | pair name attributes children =>
    .element ⟨none, name⟩ (attributeNodes attributes) (nodesBelow children)

def nodesBelow : List Markup → List Node
  | [] => []
  | m :: ms => node m :: nodesBelow ms

end

/-- Whether the text of an element can be read back: all its names and values can be written. -/
inductive IsWritable : Markup → Prop
  | single {name : String} {attributes : List (String × String)}
      (hn : isPlainName name.toList) (ha : AreWritable attributes) :
      IsWritable (.single name attributes)
  | pair {name : String} {attributes : List (String × String)} {children : List Markup}
      (hn : isPlainName name.toList) (ha : AreWritable attributes)
      (hc : ∀ m ∈ children, IsWritable m) : IsWritable (.pair name attributes children)

theorem nodesBelow_eq_map (ms : List Markup) : nodesBelow ms = ms.map node := by
  induction ms with
  | nil => rfl
  | cons m ms ih => rw [nodesBelow, ih, List.map_cons]

/-! ## The node of an element -/

section Node

variable (name : String) (attributes : List (String × String)) (children : List Markup)
  (sought : String)

@[simp] theorem isNamed_single :
    (single name attributes).node.isNamed sought = decide (name = sought) := by
  rw [node, Node.isNamed]

@[simp] theorem isNamed_pair :
    (pair name attributes children).node.isNamed sought = decide (name = sought) := by
  rw [node, Node.isNamed]

@[simp] theorem childrenNamed_pair :
    (pair name attributes children).node.childrenNamed sought =
      (children.map node).filter (Node.isNamed sought) := by
  rw [Node.childrenNamed, node, Node.children, nodesBelow_eq_map]

theorem find?_attributeNodes :
    ((attributeNodes attributes).find? (·.name = ⟨none, sought⟩)).map Attribute.value =
      attributes.lookup sought := by
  induction attributes with
  | nil => rfl
  | cons a as ih =>
      obtain ⟨k, v⟩ := a
      rw [lookup_cons_eq_ite, ← ih]
      by_cases h : sought = k
      · subst h
        simp [attributeNodes]
      · simp [attributeNodes, h, Ne.symm h]

@[simp] theorem attribute?_single :
    (single name attributes).node.attribute? sought = attributes.lookup sought := by
  rw [node, Node.attribute?, find?_attributeNodes]

@[simp] theorem attribute?_pair :
    (pair name attributes children).node.attribute? sought = attributes.lookup sought := by
  rw [node, Node.attribute?, find?_attributeNodes]

theorem allNamed_single (h : name ≠ sought) :
    (single name attributes).node.allNamed sought = [] := by
  rw [node, Node.allNamed, if_neg h, Node.allNamedBelow]

theorem allNamed_pair (h : name ≠ sought) :
    (pair name attributes children).node.allNamed sought =
      (children.map node).flatMap (Node.allNamed sought) := by
  rw [node, Node.allNamed, if_neg h, Node.allNamedBelow_eq_flatMap, nodesBelow_eq_map]

theorem allNamed_pair_self :
    (pair name attributes children).node.allNamed name =
      (pair name attributes children).node ::
        (children.map node).flatMap (Node.allNamed name) := by
  rw [node, Node.allNamed, if_pos rfl, Node.allNamedBelow_eq_flatMap, nodesBelow_eq_map]

end Node

end Markup

end ServiceDoc.Xml
