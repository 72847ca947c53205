import Mathlib
import ServiceDoc.Proofs.Text.Words
import ServiceDoc.Text.LowerCase
/-!
# What lower case leaves alone

The lower case of a text has no capital among its ASCII characters, and decimal digits where the
text has them: no other letter becomes a digit, as all small letters of the tables come behind the
digits. Places are kept unless the text has a dotted capital I, of which the dot becomes a character
of its own.
-/

namespace ServiceDoc

/-! ## The tables -/

namespace CodeTable

open String (ofList)

/-- The number of a range that a list of characters writes. -/
def wordValue (word : List Char) : Nat :=
  match word.splitOn ':' with
  | [_, value] => value.foldl (fun n c => 16 * n + CodeSet.digit c) 0
  | _ => 0

theorem value_runOf (word : List Char) : (runOf (ofList word)).2.2 = wordValue word := by
  have hparts : (ofList word).splitOn ":" = (word.splitOn ':').map ofList := by
    simpa using CodeSet.splitOn_singleton ':' (ofList word)
  rw [runOf, wordValue, hparts]
  match word.splitOn ':' with
  | [] => rfl
  | [_] => rfl
  | [_, value] => simp [CodeSet.number]
  | _ :: _ :: _ :: _ => rfl

theorem forall_mem_words_nil (p : Nat → Prop) : ∀ word ∈ CodeSet.words [], p (runOf word).2.2 :=
  nofun

theorem forall_mem_words_cons {p : Nat → Prop} {line : List Char} {lines : List String}
    (hline : ∀ word ∈ line.splitOn ' ', p (wordValue word))
    (hlines : ∀ word ∈ CodeSet.words lines, p (runOf word).2.2) :
    ∀ word ∈ CodeSet.words (ofList line :: lines), p (runOf word).2.2 := by
  rw [CodeSet.words, List.flatMap_cons, List.forall_mem_append]
  refine ⟨?_, hlines⟩
  rw [CodeSet.splitOn_blank, String.toList_ofList, List.forall_mem_map]
  intro word hword
  rw [value_runOf]
  exact hline word hword

theorem forall_find?_ofLines {p : Nat → Prop} {lines : List String}
    (h : ∀ word ∈ CodeSet.words lines, p (runOf word).2.2) {n a value : Nat}
    (hfind : (ofLines lines).find? n = some (a, value)) : p value := by
  obtain ⟨run, hrun, heq⟩ := Option.map_eq_some_iff.1 hfind
  have hvalue : run.2.2 = value := congrArg Prod.snd heq
  have hmem := Array.mem_of_find?_eq_some hrun
  rw [ofLines, List.mem_toArray] at hmem
  obtain ⟨word, hword, rfl⟩ := List.mem_map.1 hmem
  exact hvalue ▸ h word hword

end CodeTable

namespace Text

namespace LowerCase

/-- All small letters of the table come behind the digits and the capitals of ASCII. -/
theorem le_of_find?_runs {n a small : Nat} (h : runs.find? n = some (a, small)) : 0x61 ≤ small := by
  refine CodeTable.forall_find?_ofLines ?_ h
  repeat' first
    | refine CodeTable.forall_mem_words_cons (by decide +kernel) ?_
    | exact CodeTable.forall_mem_words_nil _

/-! ## Single letters -/

theorem isUpper_eq_false_of_lt {c : Char} (h : 0x5A < c.toNat) : c.isUpper = false := by
  have hval : ¬ c.val ≤ 0x5A := UInt32.not_le.2 (UInt32.lt_iff_toNat_lt.2 h)
  simp [Char.isUpper, hval]

theorem isDigit_eq_false_of_lt {c : Char} (h : 0x39 < c.toNat) : c.isDigit = false := by
  have hval : ¬ c.val ≤ 0x39 := UInt32.not_le.2 (UInt32.lt_iff_toNat_lt.2 h)
  simp [Char.isDigit, hval]

/-- A number behind those of the capitals writes neither a capital nor a digit. -/
theorem isUpper_isDigit_ofNat {n : Nat} (h : 0x61 ≤ n) :
    (Char.ofNat n).isUpper = false ∧ (Char.ofNat n).isDigit = false := by
  by_cases hvalid : n.isValidChar
  · have hn : (Char.ofNat n).toNat = n := by
      rw [Char.toNat_ofNat, if_pos hvalid]
    exact ⟨isUpper_eq_false_of_lt (by omega), isDigit_eq_false_of_lt (by omega)⟩
  · have hn : Char.ofNat n = '\x00' := by
      rw [Char.ofNat, dif_neg hvalid]
      rfl
    rw [hn]
    decide

theorem isDigit_toLower (c : Char) : c.toLower.isDigit = c.isDigit := by
  by_cases h : c.isUpper
  · have hval : 65 ≤ c.toNat := by
      simp only [Char.isUpper, decide_eq_true_eq, UInt32.le_iff_toNat_le] at h
      exact h.1
    rw [Char.toLower_eq_of_isUpper h, isDigit_eq_false_of_lt (c := c) (by omega)]
    exact (isUpper_isDigit_ofNat (by omega)).2
  · rw [Char.toLower_eq_of_not_isUpper h]

/-- The small letter of all letters but one is one letter, no capital, and a digit if the letter is
one. -/
theorem exists_letters_eq {c : Char} (h : c ≠ '\u0130') :
    ∃ d, letters c = [d] ∧ d.isUpper = false ∧ d.isDigit = c.isDigit := by
  rw [letters]
  split
  · exact ⟨c.toLower, rfl, Char.isUpper_toLower_eq_false c, isDigit_toLower c⟩
  · next hascii =>
    have hdigit : c.isDigit = false := isDigit_eq_false_of_lt (by omega)
    rw [hdigit]
    split
    · split
      · exact ⟨_, rfl, isUpper_isDigit_ofNat (by omega)⟩
      · exact ⟨c, rfl, isUpper_eq_false_of_lt (by omega), hdigit⟩
    · next small _ hfind =>
      have hsmall := le_of_find?_runs hfind
      exact ⟨_, rfl, isUpper_isDigit_ofNat (by omega)⟩
    · exact ⟨c, rfl, isUpper_eq_false_of_lt (by omega), hdigit⟩

/-! ## Texts -/

/-- Lower case letter by letter; a sigma, which has two small letters, is no exception. -/
theorem exists_ofText_cons {c : Char} (h : c ≠ '\u0130') (afterCased : Bool) (cs : List Char) :
    ∃ d next, ofText afterCased (c :: cs) = d :: ofText next cs ∧ d.isUpper = false ∧
      d.isDigit = c.isDigit := by
  rw [ofText]
  by_cases hsigma : c = '\u03a3'
  · rw [if_pos hsigma, hsigma]
    split
    · exact ⟨_, _, rfl, by decide, by decide⟩
    · exact ⟨_, _, rfl, by decide, by decide⟩
  · obtain ⟨d, hd, hupper, hdigit⟩ := exists_letters_eq h
    rw [if_neg hsigma, hd]
    exact ⟨d, _, rfl, hupper, hdigit⟩

theorem exists_ofText_cons_dotted (afterCased : Bool) (cs : List Char) :
    ∃ next, ofText afterCased ('\u0130' :: cs) = 'i' :: '\u0307' :: ofText next cs :=
  ⟨_, rfl⟩

theorem isUpper_of_mem_ofText {afterCased : Bool} {cs : List Char} {d : Char}
    (h : d ∈ ofText afterCased cs) : d.isUpper = false := by
  induction cs generalizing afterCased with
  | nil => simp [ofText] at h
  | cons c cs ih =>
      by_cases hc : c = '\u0130'
      · obtain ⟨next, htext⟩ := exists_ofText_cons_dotted afterCased cs
        rw [hc, htext, List.mem_cons, List.mem_cons] at h
        rcases h with rfl | rfl | h
        · decide
        · decide
        · exact ih h
      · obtain ⟨e, next, htext, hupper, -⟩ := exists_ofText_cons hc afterCased cs
        rw [htext, List.mem_cons] at h
        rcases h with rfl | h
        · exact hupper
        · exact ih h

theorem map_isDigit_ofText {afterCased : Bool} {cs : List Char}
    (h : '\u0307' ∉ ofText afterCased cs) :
    (ofText afterCased cs).map Char.isDigit = cs.map Char.isDigit := by
  induction cs generalizing afterCased with
  | nil => rfl
  | cons c cs ih =>
      by_cases hc : c = '\u0130'
      · obtain ⟨next, htext⟩ := exists_ofText_cons_dotted afterCased cs
        rw [hc, htext] at h
        simp at h
      · obtain ⟨e, next, htext, -, hdigit⟩ := exists_ofText_cons hc afterCased cs
        rw [htext] at h ⊢
        rw [List.map_cons, List.map_cons, hdigit, ih (List.not_mem_of_not_mem_cons h)]

end LowerCase

theorem isUpper_of_mem_lowerCase {cs : List Char} {d : Char} (h : d ∈ lowerCase cs) :
    d.isUpper = false :=
  LowerCase.isUpper_of_mem_ofText h

theorem map_isDigit_lowerCase {cs : List Char} (h : '\u0307' ∉ lowerCase cs) :
    (lowerCase cs).map Char.isDigit = cs.map Char.isDigit :=
  LowerCase.map_isDigit_ofText h

end Text

end ServiceDoc
