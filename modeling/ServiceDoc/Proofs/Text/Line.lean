import Mathlib
import ServiceDoc.Text.Quoted
/-!
# Texts on one line

A text is on one line if no line feed is in it. Numbers are, and a quoted text is as well, whatever
is quoted.
-/

namespace ServiceDoc.Text

def IsOneLine (s : String) : Prop := '\n' ∉ s.toList

instance (s : String) : Decidable (IsOneLine s) := inferInstanceAs (Decidable ('\n' ∉ s.toList))

@[simp]
theorem isOneLine_append (s t : String) : IsOneLine (s ++ t) ↔ IsOneLine s ∧ IsOneLine t := by
  simp [IsOneLine]

theorem isOneLine_ofList {cs : List Char} (h : '\n' ∉ cs) : IsOneLine (String.ofList cs) := by
  rwa [IsOneLine, String.toList_ofList]

@[simp]
theorem isOneLine_toString (n : Nat) : IsOneLine (toString n) := by
  rw [Nat.toString_eq_ofList_toDigits]
  refine isOneLine_ofList fun hmem => ?_
  have hdigit := Nat.isDigit_of_mem_toDigits (by decide) (by decide) hmem
  exact absurd hdigit (by decide)

/-! ## Quoted texts -/

theorem hexDigit_ne_lineFeed {n : Nat} (h : n < 16) : hexDigit n ≠ '\n' := by
  interval_cases n <;> decide

theorem notMem_hexDigits (count n : Nat) : '\n' ∉ hexDigits count n := by
  induction count generalizing n with
  | zero => exact List.not_mem_nil
  | succ count ih =>
      rw [hexDigits, List.mem_append, List.mem_singleton, not_or]
      exact ⟨ih (n / 16), (hexDigit_ne_lineFeed (Nat.mod_lt n (by decide))).symm⟩

theorem notMem_numberEscape (c : Char) : '\n' ∉ numberEscape c := by
  rw [numberEscape]
  split
  · simp [notMem_hexDigits]
  · split <;> simp [notMem_hexDigits]

theorem notMem_quotedChar {quote : Char} (hquote : quote ≠ '\n') (c : Char) :
    '\n' ∉ quotedChar quote c := by
  rw [quotedChar]
  split
  · next h =>
    rcases h with rfl | rfl
    · simpa using hquote.symm
    · decide
  · split
    · decide
    · next hc =>
      split
      · decide
      · split
        · decide
        · split
          · simpa using Ne.symm hc
          · exact notMem_numberEscape c

@[simp]
theorem isOneLine_quoted (s : String) : IsOneLine (quoted s) := by
  have hquote : quoteFor s.toList ≠ '\n' := by
    rw [quoteFor]
    split <;> decide
  rw [quoted]
  refine isOneLine_ofList ?_
  simp only [List.mem_append, List.mem_cons, List.mem_flatMap, List.not_mem_nil, or_false, not_or,
    not_exists, not_and]
  exact ⟨⟨hquote.symm, fun c _ => notMem_quotedChar hquote c⟩, hquote.symm⟩

end ServiceDoc.Text
