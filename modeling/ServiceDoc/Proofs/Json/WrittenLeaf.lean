import Mathlib.Data.List.Basic
import ServiceDoc.Json.Reader
import ServiceDoc.Json.Text
/-!
# Reading texts and integers back

The leaves of a value, as they are written, followed by any other text. A text is read one character
at a time: each is undone by the reader, whichever way it is escaped (`readQuoted_escape`). An
integer is read up to the first character that could not go on with it, so here it matters what
follows (`EndsNumber`).
-/

namespace ServiceDoc.Json

/-! ## Escapes -/

theorem hexValue?_hexDigit {n : Nat} (h : n < 16) : hexValue? (hexDigit n) = some n := by
  have hall : ∀ n < 16, hexValue? (hexDigit n) = some n := by
    decide
  exact hall n h

theorem unit?_hexDigit {n : Nat} (h : n < 0x10000) :
    unit? (hexDigit (n / 4096 % 16)) (hexDigit (n / 256 % 16)) (hexDigit (n / 16 % 16))
      (hexDigit (n % 16)) = some n := by
  have hsum : (((n / 4096 % 16) * 16 + n / 256 % 16) * 16 + n / 16 % 16) * 16 + n % 16 = n := by
    omega
  rw [unit?, hexValue?_hexDigit (by omega), hexValue?_hexDigit (by omega),
    hexValue?_hexDigit (by omega), hexValue?_hexDigit (by omega)]
  exact congrArg some hsum

section Quoted

variable (acc : List Char) (rest : List Char)

theorem readQuoted_unitEscape {n : Nat} (h : n < 0xD800 ∨ 0xE000 ≤ n) (hmax : n < 0x10000) :
    readQuoted acc (unitEscape n ++ rest) = readQuoted (Char.ofNat n :: acc) rest := by
  simp only [unitEscape, List.cons_append, List.nil_append]
  rw [readQuoted, unit?_hexDigit hmax]
  simp only
  rw [if_neg (by omega), if_neg (by omega)]

theorem readQuoted_surrogates {high low : Nat} (hhigh : 0xD800 ≤ high ∧ high < 0xDC00)
    (hlow : 0xDC00 ≤ low ∧ low < 0xE000) :
    readQuoted acc (unitEscape high ++ (unitEscape low ++ rest)) =
      readQuoted (Char.ofNat (0x10000 + (high - 0xD800) * 1024 + (low - 0xDC00)) :: acc) rest := by
  simp only [unitEscape, List.cons_append, List.nil_append]
  rw [readQuoted, unit?_hexDigit (by omega)]
  simp only
  rw [if_pos hhigh, unit?_hexDigit (by omega)]
  simp only
  rw [if_pos hlow]

theorem readQuoted_units (c : Char) :
    readQuoted acc ((units c).flatMap unitEscape ++ rest) = readQuoted (c :: acc) rest := by
  have hvalid : c.toNat < 0xD800 ∨ 0xDFFF < c.toNat ∧ c.toNat < 0x110000 := c.valid
  rw [units]
  by_cases h : c.toNat < 0x10000
  · rw [if_pos h, List.flatMap_singleton, readQuoted_unitEscape acc rest (by omega) h,
      Char.ofNat_toNat]
  · have hsum : 0x10000 + (0xD800 + (c.toNat - 0x10000) / 1024 - 0xD800) * 1024 +
        (0xDC00 + (c.toNat - 0x10000) % 1024 - 0xDC00) = c.toNat := by
      omega
    rw [if_neg h, List.flatMap_cons, List.flatMap_singleton, List.append_assoc,
      readQuoted_surrogates acc rest (by omega) (by omega), hsum, Char.ofNat_toNat]

theorem readQuoted_plain {c : Char} (hquote : c ≠ '\x22') (hslash : c ≠ '\\')
    (h : 0x20 ≤ c.toNat) : readQuoted acc (c :: rest) = readQuoted (c :: acc) rest := by
  rw [readQuoted]
  · rw [if_neg (by simp [hslash, Nat.not_lt.2 h])]
  · exact hquote
  · exact fun _ _ _ _ _ heq => absurd heq hslash
  · exact fun _ _ heq => absurd heq hslash

/-- However a character is escaped, it is read as itself. -/
theorem readQuoted_escape (c : Char) :
    readQuoted acc (escape c ++ rest) = readQuoted (c :: acc) rest := by
  rw [escape]
  split_ifs with hquote hslash hline hreturn htab hback hfeed hplain
  · rw [hquote]; rfl
  · rw [hslash]; rfl
  · rw [hline]; rfl
  · rw [hreturn]; rfl
  · rw [htab]; rfl
  · rw [hback]; rfl
  · rw [hfeed]; rfl
  · exact readQuoted_plain acc rest hquote hslash hplain.1
  · exact readQuoted_units acc rest c

theorem readQuoted_flatMap_escape (s : List Char) :
    readQuoted acc (s.flatMap escape ++ '\x22' :: rest) =
      some (String.ofList (acc.reverse ++ s), rest) := by
  induction s generalizing acc with
  | nil => rw [List.flatMap_nil, List.nil_append, readQuoted, List.append_nil]
  | cons c s ih =>
      rw [List.flatMap_cons, List.append_assoc, readQuoted_escape, ih, List.reverse_cons,
        List.append_assoc, List.singleton_append]

end Quoted

/-- A quoted text is read up to its closing quote. -/
theorem readQuoted_quoted (s : String) (rest : List Char) :
    readQuoted [] (s.toList.flatMap escape ++ '\x22' :: rest) = some (s, rest) := by
  rw [readQuoted_flatMap_escape, List.reverse_nil, List.nil_append, String.ofList_toList]

/-! ## Integers -/

/-- No digit, fraction or exponent begins the text, so an integer before it ends there. -/
def EndsNumber (s : List Char) : Prop :=
  ∀ c ∈ s.head?, ¬ c.isDigit ∧ c ≠ '.' ∧ c ≠ 'e' ∧ c ≠ 'E'

theorem endsNumber_cons {c : Char} (h : ¬ c.isDigit ∧ c ≠ '.' ∧ c ≠ 'e' ∧ c ≠ 'E')
    (rest : List Char) : EndsNumber (c :: rest) := by
  simpa [EndsNumber] using h

theorem digitsValue_toDigits (n : Nat) : digitsValue (Nat.toDigits 10 n) = n :=
  Nat.ofDigitChars_toDigits (by decide) (by decide)

/-- A numeral does not begin with a zero unless it is zero. -/
theorem head?_toDigits_ne_zero {n : Nat} (h : 0 < n) : (Nat.toDigits 10 n).head? ≠ some '0' := by
  induction n using Nat.strongRecOn with
  | ind n ih =>
      by_cases hn : n < 10
      · have hall : ∀ n < 10, 0 < n → [n.digitChar].head? ≠ some '0' := by
          decide
        rw [Nat.toDigits_of_lt_base hn]
        exact hall n hn h
      · rw [Nat.toDigits_of_base_le (by decide) (by omega),
          List.head?_append_of_ne_nil _ Nat.toDigits_ne_nil]
        exact ih (n / 10) (by omega) (by omega)

theorem toDigits_ne_zero_cons (n : Nat) (c : Char) (cs : List Char) :
    Nat.toDigits 10 n ≠ '0' :: c :: cs := by
  intro heq
  rcases Nat.eq_zero_or_pos n with rfl | hpos
  · cases heq
  · exact head?_toDigits_ne_zero hpos (by rw [heq, List.head?_cons])

theorem readNat_toDigits (n : Nat) {rest : List Char} (h : EndsNumber rest) :
    readNat (Nat.toDigits 10 n ++ rest) = some (n, rest) := by
  have hdigit : ∀ c ∈ Nat.toDigits 10 n, c.isDigit = true := fun c hc =>
    Nat.isDigit_of_mem_toDigits (by decide) (by decide) hc
  have htake : (Nat.toDigits 10 n ++ rest).takeWhile Char.isDigit = Nat.toDigits 10 n := by
    rw [List.takeWhile_append_of_pos hdigit]
    cases rest with
    | nil => rw [List.takeWhile_nil, List.append_nil]
    | cons c rest => rw [List.takeWhile_cons_of_neg (h c rfl).1, List.append_nil]
  have hdrop : (Nat.toDigits 10 n ++ rest).dropWhile Char.isDigit = rest := by
    rw [List.dropWhile_append_of_pos hdigit]
    cases rest with
    | nil => rfl
    | cons c rest => rw [List.dropWhile_cons_of_neg (h c rfl).1]
  rw [readNat, htake, hdrop]
  split
  · next heq => exact absurd heq Nat.toDigits_ne_nil
  · next heq => exact absurd heq (toDigits_ne_zero_cons n _ _)
  · exact absurd rfl (h _ rfl).2.1
  · exact absurd rfl (h _ rfl).2.2.1
  · exact absurd rfl (h _ rfl).2.2.2
  · rw [digitsValue_toDigits]

end ServiceDoc.Json
