import ServiceDoc.Proofs.Script.StringLiteral
import ServiceDoc.Proofs.Text.Cut
/-!
# Script elements

The text of a script element is raw: it goes up to the next end tag of a script, and nothing in it is
decoded. A page is read with its line ends made one line feed each, and with another character for
each NUL. This reading leaves alone what a literal is told by: the quotes, the backslashes and the
separators. It never makes a text longer, and what it changes is not in the text it gives.
-/

namespace ServiceDoc.Script

open Json (units)
open Text (cut?)

def scriptChar (c : Char) : Char :=
  if c = '\r' then '\n' else if c = '\x00' then '\ufffd' else c

/-- The text of a script as it is read. -/
def scriptChars : List Char → List Char
  | '\r' :: '\n' :: s => '\n' :: scriptChars s
  | c :: s => scriptChar c :: scriptChars s
  | [] => []

/-- The script of a page: the text of its first script element without attributes. -/
def ofPage? (page : List Char) : Option (List Char) :=
  ((cut? "<script>".toList page).bind fun p => cut? "</script>".toList p.2).map fun p =>
    scriptChars p.1

theorem scriptChar_eq_self {c : Char} (h : c ∉ ['\r', '\x00']) : scriptChar c = c := by
  simp only [List.mem_cons, List.not_mem_nil, or_false, not_or] at h
  rw [scriptChar, if_neg h.1, if_neg h.2]

theorem scriptChars_cons {c : Char} (h : c ≠ '\r') (s : List Char) :
    scriptChars (c :: s) = scriptChar c :: scriptChars s := by
  rw [scriptChars.eq_def]
  split <;> simp_all

theorem scriptChars_append_of_forall {s : List Char} (h : ∀ c ∈ s, c ∉ ['\r', '\x00'])
    (t : List Char) : scriptChars (s ++ t) = s ++ scriptChars t := by
  induction s with
  | nil => rfl
  | cons c s ih =>
      obtain ⟨hc, hs⟩ := List.forall_mem_cons.1 h
      have hreturn : c ≠ '\r' := fun heq => hc (by simp [heq])
      rw [List.cons_append, scriptChars_cons hreturn, scriptChar_eq_self hc, ih hs,
        List.cons_append]

/-- A text that does not begin with a line feed is read by itself. -/
theorem scriptChars_append_cons {c : Char} (h : c ≠ '\n') (s t : List Char) :
    scriptChars (s ++ c :: t) = scriptChars s ++ scriptChars (c :: t) := by
  fun_induction scriptChars s with
  | case1 s ih => rw [List.cons_append, List.cons_append, scriptChars, ih, List.cons_append]
  | case2 d s hpair ih =>
      rw [List.cons_append, List.cons_append, scriptChars.eq_2, ih]
      intro s' hd heq
      cases s with
      | nil => exact h (List.cons.inj heq).1
      | cons e s => exact hpair s hd (by rw [(List.cons.inj heq).1])
  | case3 => rfl

variable {c : Char} {s : List Char}

theorem scriptChar_eq_iff (h : c ∉ ['\n', '\ufffd', '\r', '\x00']) (d : Char) :
    scriptChar d = c ↔ d = c := by
  simp only [List.mem_cons, List.not_mem_nil, or_false, not_or] at h
  rw [scriptChar]
  split
  · next hd => simp [hd, Ne.symm h.1, Ne.symm h.2.2.1]
  · split
    · next hd => simp [hd, Ne.symm h.2.1, Ne.symm h.2.2.2]
    · exact Iff.rfl

theorem count_scriptChars (h : c ∉ ['\n', '\ufffd', '\r', '\x00']) (s : List Char) :
    (scriptChars s).count c = s.count c := by
  fun_induction scriptChars s with
  | case1 s ih =>
      simp only [List.mem_cons, List.not_mem_nil, or_false, not_or] at h
      rw [List.count_cons_of_ne (Ne.symm h.1), List.count_cons_of_ne (Ne.symm h.2.2.1),
        List.count_cons_of_ne (Ne.symm h.1), ih]
  | case2 d s _ ih =>
      simp only [List.count_cons, beq_iff_eq, scriptChar_eq_iff h, ih]
  | case3 => rfl

theorem mem_scriptChars (h : c ∉ ['\n', '\ufffd', '\r', '\x00']) (s : List Char) :
    c ∈ scriptChars s ↔ c ∈ s := by
  rw [← List.count_pos_iff, count_scriptChars h, List.count_pos_iff]

theorem length_units_scriptChar (c : Char) :
    (units (scriptChar c)).length = (units c).length := by
  rw [scriptChar]
  split
  · next h => rw [h]; rfl
  · split
    · next h => rw [h]; rfl
    · rfl

theorem length_utf16_scriptChars_le (s : List Char) :
    (utf16 (scriptChars s)).length ≤ (utf16 s).length := by
  fun_induction scriptChars s with
  | case1 s ih =>
      simp only [utf16_cons, List.length_append]
      omega
  | case2 c s _ ih =>
      simp only [utf16_cons, List.length_append, length_units_scriptChar]
      omega
  | case3 => exact Nat.le_refl _

/-- A text that is read without line feeds has no line ends of the two kinds. -/
theorem notMem_of_notMem_scriptChars (h : '\n' ∉ scriptChars s) : '\n' ∉ s ∧ '\r' ∉ s := by
  fun_induction scriptChars s with
  | case1 s ih => exact absurd List.mem_cons_self h
  | case2 c s _ ih =>
      rw [List.mem_cons, not_or] at h
      obtain ⟨hfeed, hreturn⟩ := ih h.2
      have hc : '\n' ≠ c ∧ '\r' ≠ c := by
        constructor <;> rintro rfl <;> exact h.1 rfl
      simp [hfeed, hreturn, hc]
  | case3 => simp

theorem scriptChar_ne_nul (c : Char) : scriptChar c ≠ '\x00' := by
  rw [scriptChar]
  split_ifs with hreturn hnul
  · decide
  · decide
  · exact hnul

theorem nul_notMem_scriptChars (s : List Char) : '\x00' ∉ scriptChars s := by
  fun_induction scriptChars s with
  | case1 s ih => simp [ih]
  | case2 c s _ ih => simp [ih, Ne.symm (scriptChar_ne_nul c)]
  | case3 => simp

end ServiceDoc.Script
