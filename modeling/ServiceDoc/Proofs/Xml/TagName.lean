import Mathlib.Data.List.TakeWhile
import ServiceDoc.Xml.Tree
/-!
# Names as texts

A program may have a single text for the name of an element: its tag, with the namespace in braces
before the local part. The local part can be taken back from a tag whatever the namespace is, as it
stands behind the last brace and has none of its own (`localOf_tag`). The name of an attribute needs
no such care, since a tag that begins with no brace is a name without a namespace.
-/

namespace ServiceDoc.Xml

namespace Name

/-- A name as one text. -/
def tag (n : Name) : String :=
  match n.space with
  | none => n.localPart
  | some space => "\x7b" ++ space ++ "\x7d" ++ n.localPart

/-- What stands behind the last closing brace of a tag. -/
def localOf (tag : String) : String :=
  String.ofList (tag.toList.reverse.takeWhile (· ≠ '\x7d')).reverse

theorem localOf_tag {n : Name} (h : '\x7d' ∉ n.localPart.toList) : localOf n.tag = n.localPart := by
  have hlocal : ∀ c ∈ n.localPart.toList.reverse, decide (c ≠ '\x7d') = true := by
    intro c hc
    rw [List.mem_reverse] at hc
    exact decide_eq_true fun heq => h (heq ▸ hc)
  have hbehind : (n.tag.toList.reverse.takeWhile (· ≠ '\x7d')) = n.localPart.toList.reverse := by
    obtain ⟨_ | space, localPart⟩ := n
    · exact List.takeWhile_eq_self_iff.2 hlocal
    · have htag : (tag ⟨some space, localPart⟩).toList.reverse =
          localPart.toList.reverse ++ '\x7d' :: (space.toList.reverse ++ ['\x7b']) := by
        simp [tag]
      rw [htag, List.takeWhile_append_of_pos hlocal, List.takeWhile_cons_of_neg (by simp),
        List.append_nil]
  rw [localOf, hbehind, List.reverse_reverse, String.ofList_toList]

theorem tag_eq_iff {n : Name} {name : String} (h : name.toList.head? ≠ some '\x7b') :
    n.tag = name ↔ n = ⟨none, name⟩ := by
  obtain ⟨_ | space, localPart⟩ := n
  · simp [tag]
  · have hne : tag ⟨some space, localPart⟩ ≠ name := by
      rintro rfl
      simp [tag] at h
    simp [hne]

end Name

/-- An attribute as it is known by its tag. -/
def Attribute.byTag (a : Attribute) : Attribute := ⟨⟨none, a.name.tag⟩, a.value⟩

namespace Node

/-- Whether no element of a tree has a closing brace in its local name. -/
inductive HasPlainNames : Node → Prop
  | text (s : String) : HasPlainNames (.text s)
  | element {name : Name} {attributes : List Attribute} {children : List Node}
      (hn : '\x7d' ∉ name.localPart.toList) (hc : ∀ c ∈ children, HasPlainNames c) :
      HasPlainNames (.element name attributes children)

@[simp] theorem hasPlainNames_text (s : String) : HasPlainNames (.text s) := .text s

@[simp] theorem hasPlainNames_element {name : Name} {attributes : List Attribute}
    {children : List Node} :
    HasPlainNames (.element name attributes children) ↔
      '\x7d' ∉ name.localPart.toList ∧ ∀ c ∈ children, c.HasPlainNames := by
  constructor
  · rintro (_ | ⟨hn, hc⟩)
    exact ⟨hn, hc⟩
  · rintro ⟨hn, hc⟩
    exact .element hn hc

mutual

/-- A tree as it is known by its tags: of an element the part of its tag behind the last brace, and
of an attribute the whole text. -/
def byTags : Node → Node
  | text s => .text s
  | element name attributes children =>
    .element ⟨none, Name.localOf name.tag⟩ (attributes.map Attribute.byTag) (byTagsBelow children)

def byTagsBelow : List Node → List Node
  | [] => []
  | n :: ns => byTags n :: byTagsBelow ns

end

theorem byTagsBelow_eq_map (ns : List Node) : byTagsBelow ns = ns.map byTags := by
  induction ns with
  | nil => rfl
  | cons n ns ih => rw [byTagsBelow, ih, List.map_cons]

end Node

end ServiceDoc.Xml
