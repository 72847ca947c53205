import Mathlib.Data.List.Basic
import Mathlib.Data.List.Infix
/-!
# Texts around a mark

A text is cut at the first place where a mark stands in it. Where this is depends on what the text
begins with and not on what follows the mark. A text that can be put before another one without a
mark beginning in it is recognised by itself, whatever the other one is (`avoids`): at no place of
it do the mark and the rest of the text agree as far as both go.
-/

namespace ServiceDoc.Text

/-- The texts before and behind the first occurrence of a mark. -/
def cut? (mark : List Char) : List Char → Option (List Char × List Char)
  | [] => none
  | c :: s =>
    if mark <+: c :: s then some ([], (c :: s).drop mark.length)
    else (cut? mark s).map fun p => (c :: p.1, p.2)

/-- Whether no mark begins in a text, whatever follows it. -/
def avoids (mark : List Char) : List Char → Bool
  | [] => true
  | c :: s => ¬ mark <+: c :: s ∧ ¬ c :: s <+: mark ∧ avoids mark s

variable {mark s : List Char}

theorem not_prefix_append {t : List Char} (hmark : ¬ mark <+: s) (htext : ¬ s <+: mark) :
    ¬ mark <+: s ++ t := by
  intro hprefix
  rcases List.prefix_or_prefix_of_prefix hprefix (List.prefix_append s t) with hshort | hlong
  · exact hmark hshort
  · exact htext hlong

theorem avoids_append {t : List Char} (hs : avoids mark s) (ht : avoids mark t) :
    avoids mark (s ++ t) := by
  induction s with
  | nil => exact ht
  | cons c s ih =>
      obtain ⟨hmark, htext, hrest⟩ := of_decide_eq_true hs
      have hlonger : ¬ c :: s ++ t <+: mark := fun hprefix =>
        htext ((List.prefix_append (c :: s) t).trans hprefix)
      exact decide_eq_true ⟨not_prefix_append hmark htext, hlonger, ih hrest⟩

theorem cut?_append_of_avoids (h : avoids mark s) (r : List Char) :
    cut? mark (s ++ r) = (cut? mark r).map fun p => (s ++ p.1, p.2) := by
  induction s with
  | nil => simp
  | cons c s ih =>
      obtain ⟨hmark, htext, hrest⟩ := of_decide_eq_true h
      have hnone : ¬ mark <+: c :: (s ++ r) := not_prefix_append hmark htext
      rw [List.cons_append, cut?, if_neg hnone, ih hrest, Option.map_map]
      rfl

theorem eq_append_of_cut? {a b : List Char} (h : cut? mark s = some (a, b)) :
    s = a ++ (mark ++ b) := by
  induction s generalizing a with
  | nil => cases h
  | cons c s ih =>
      rw [cut?] at h
      split at h
      · next hmark =>
        obtain ⟨rfl, rfl⟩ := Prod.mk.inj (Option.some.inj h)
        exact List.prefix_append_drop hmark
      · obtain ⟨⟨a', b'⟩, hcut, heq⟩ := Option.map_eq_some_iff.1 h
        obtain ⟨rfl, rfl⟩ := Prod.mk.inj heq
        rw [List.cons_append, ← ih hcut]

/-- What follows a text does not change where it is cut. -/
theorem cut?_append_of_eq_some {a b : List Char} (h : cut? mark s = some (a, b)) (r : List Char) :
    cut? mark (s ++ r) = some (a, b ++ r) := by
  induction s generalizing a with
  | nil => cases h
  | cons c s ih =>
      rw [cut?] at h
      rw [cut?.eq_def, List.cons_append]
      dsimp only
      rw [← List.cons_append]
      split at h
      · next hmark =>
        obtain ⟨rfl, rfl⟩ := Prod.mk.inj (Option.some.inj h)
        rw [if_pos (hmark.trans (List.prefix_append (c :: s) r)),
          List.drop_append_of_le_length hmark.length_le]
      · next hmark =>
        obtain ⟨⟨a', b'⟩, hcut, heq⟩ := Option.map_eq_some_iff.1 h
        obtain ⟨rfl, rfl⟩ := Prod.mk.inj heq
        have hlength : mark.length ≤ (c :: s).length := by
          rw [eq_append_of_cut? hcut]
          simp only [List.length_cons, List.length_append]
          omega
        have hnone : ¬ mark <+: c :: s ++ r := fun hprefix => hmark
          (List.prefix_of_prefix_length_le hprefix (List.prefix_append (c :: s) r) hlength)
        rw [if_neg hnone, ih hcut]
        rfl

/-- A text without the first character of a mark has no mark in it. -/
theorem avoids_of_notMem {m : Char} (h : m ∉ s) : avoids (m :: mark) s = true := by
  induction s with
  | nil => rfl
  | cons c s ih =>
      rw [List.mem_cons, not_or] at h
      have hrest := ih h.2
      rw [avoids, decide_eq_true_iff, List.cons_prefix_cons, List.cons_prefix_cons]
      exact ⟨fun hmark => h.1 hmark.1, fun htext => h.1 htext.1.symm, hrest⟩

end ServiceDoc.Text
