import Mathlib.Data.List.Basic
import ServiceDoc.Text.Utf8
/-!
# Bytes that are read in parts

A byte that continues no character belongs to nothing before it, whatever stands there. So bytes
that need not be text can be read in parts, up to such a byte and from it on (`readUtf8_append`).
The byte of an ASCII character is one, and so is the first byte of any character: between other
bytes, those of a character are read as that character (`readUtf8_append_utf8EncodeChar`).
-/

namespace ServiceDoc.Text

theorem le_secondByteRange (a : UInt8) : 0x80 ≤ (secondByteRange a).1 := by
  unfold secondByteRange
  split_ifs <;> decide

theorem secondByteRange_le (a : UInt8) : (secondByteRange a).2 ≤ 0xBF := by
  unfold secondByteRange
  split_ifs <;> decide

theorem length_snd_firstChar_le (a : UInt8) (s : List UInt8) : (firstChar a s).2 ≤ s.length := by
  unfold firstChar
  split_ifs <;> repeat' split
  all_goals simp

/-! ## Bytes that begin something -/

section Beginning

variable {b : UInt8} (h : continues b = false)

include h

theorem follows_eq_false (a : UInt8) : follows a b = false := by
  rw [Bool.eq_false_iff]
  intro hfollows
  simp only [follows, Bool.and_eq_true, decide_eq_true_eq] at hfollows
  have hlow := UInt8.le_trans (le_secondByteRange a) hfollows.1
  have hhigh := UInt8.le_trans hfollows.2 (secondByteRange_le a)
  simp [continues, hlow, hhigh] at h

/-- No beginning of a character goes on with the byte. -/
theorem firstChar_append_cons (a : UInt8) (s r : List UInt8) :
    firstChar a (s ++ b :: r) = firstChar a s := by
  have hfollows := follows_eq_false h
  match s with
  | [] => simp [firstChar, hfollows]
  | [_] => simp [firstChar, h]
  | [_, _] => simp [firstChar, h]
  | _ :: _ :: _ :: _ => rfl

theorem readUtf8_append (bad : List UInt8 → List Char) (s r : List UInt8) :
    readUtf8 bad (s ++ b :: r) = readUtf8 bad s ++ readUtf8 bad (b :: r) := by
  fun_induction readUtf8 bad s with
  | case1 => rfl
  | case2 a s c n hc ih =>
      have hn : n ≤ s.length := by simpa [hc] using length_snd_firstChar_le a s
      rw [List.cons_append, readUtf8, firstChar_append_cons h, hc]
      simp only [List.drop_append_of_le_length hn, ih, List.cons_append]
  | case3 a s n hc ih =>
      have hn : n ≤ s.length := by simpa [hc] using length_snd_firstChar_le a s
      rw [List.cons_append, readUtf8, firstChar_append_cons h, hc]
      simp only [List.drop_append_of_le_length hn, List.take_append_of_le_length hn, ih,
        List.append_assoc]

end Beginning

/-! ## ASCII bytes -/

section AsciiByte

variable {b : UInt8} (h : b < 0x80)

include h

theorem continues_eq_false : continues b = false := by
  have hlow : ¬ 0x80 ≤ b := by simpa using h
  simp [continues, hlow]

theorem readUtf8_append_cons (bad : List UInt8 → List Char) (s r : List UInt8) :
    readUtf8 bad (s ++ b :: r) =
      readUtf8 bad s ++ Char.ofNat b.toNat :: readUtf8 bad r := by
  rw [readUtf8_append (continues_eq_false h), readUtf8, firstChar.eq_def, if_pos h]
  rfl

end AsciiByte

/-! ## Characters -/

section Character

theorem toNat_ofNat_byte {n : Nat} (h : n < 256) : (UInt8.ofNat n).toNat = n :=
  UInt8.toNat_ofNat_of_lt h

/-- A byte that carries six bits of a number. -/
theorem toNat_sixBits (n : Nat) : (UInt8.ofNat (n % 0x40 + 0x80)).toNat = n % 0x40 + 0x80 :=
  toNat_ofNat_byte (by omega)

theorem continues_ofNat {n : Nat} (h : n < 256) :
    continues (UInt8.ofNat n) = (decide (0x80 ≤ n) && decide (n ≤ 0xBF)) := by
  simp only [continues, UInt8.le_iff_toNat_le, toNat_ofNat_byte h]
  rfl

theorem continues_sixBits (n : Nat) : continues (UInt8.ofNat (n % 0x40 + 0x80)) = true := by
  rw [continues_ofNat (by omega), Bool.and_eq_true, decide_eq_true_eq, decide_eq_true_eq]
  omega

theorem continues_first {n : Nat} (hlow : 0xC0 ≤ n) (hhigh : n < 256) :
    continues (UInt8.ofNat n) = false := by
  rw [continues_ofNat hhigh, Bool.and_eq_false_iff, decide_eq_false_iff_not,
    decide_eq_false_iff_not]
  omega

theorem follows_ofNat {m n : Nat} (hm : m < 256) (hn : n < 256)
    (hlow : (if m = 0xE0 then 0xA0 else if m = 0xF0 then 0x90 else 0x80) ≤ n)
    (hhigh : n ≤ if m = 0xED then 0x9F else if m = 0xF4 then 0x8F else 0xBF) :
    follows (UInt8.ofNat m) (UInt8.ofNat n) = true := by
  have hbyte (k : UInt8) : UInt8.ofNat m = k ↔ m = k.toNat := by
    rw [← UInt8.toNat_inj, toNat_ofNat_byte hm]
  simp only [follows, secondByteRange, hbyte, Bool.and_eq_true, decide_eq_true_eq,
    UInt8.le_iff_toNat_le, toNat_ofNat_byte hn, apply_ite Prod.fst, apply_ite Prod.snd,
    apply_ite UInt8.toNat, UInt8.reduceToNat]
  split_ifs at * <;> omega

variable (n : Nat) (r : List UInt8)

theorem firstChar_two (hlow : 0x80 ≤ n) (hhigh : n < 0x800) :
    firstChar (UInt8.ofNat (n / 64 % 0x20 + 0xC0)) (UInt8.ofNat (n % 0x40 + 0x80) :: r) =
      (some (Char.ofNat n), 1) := by
  have ha : (UInt8.ofNat (n / 64 % 0x20 + 0xC0)).toNat = n / 64 % 0x20 + 0xC0 :=
    toNat_ofNat_byte (by omega)
  have hfollows : follows (UInt8.ofNat (n / 64 % 0x20 + 0xC0)) (UInt8.ofNat (n % 0x40 + 0x80)) =
      true :=
    follows_ofNat (by omega) (by omega) (by split_ifs <;> omega) (by split_ifs <;> omega)
  have hbits : (n / 64 % 0x20 + 0xC0) % 32 * 64 + (n % 0x40 + 0x80) % 64 = n := by omega
  simp only [firstChar, UInt8.lt_iff_toNat_lt, UInt8.le_iff_toNat_le, ha, hfollows, sixBits,
    List.foldl_cons, List.foldl_nil, toNat_sixBits, hbits, UInt8.reduceToNat, if_true]
  rw [if_neg (by omega), if_pos (by omega)]

theorem firstChar_three (hlow : 0x800 ≤ n) (hhigh : n < 0x10000)
    (hvalid : n < 0xD800 ∨ 0xDFFF < n) :
    firstChar (UInt8.ofNat (n / 4096 % 0x10 + 0xE0)) (UInt8.ofNat (n / 64 % 0x40 + 0x80) ::
        UInt8.ofNat (n % 0x40 + 0x80) :: r) =
      (some (Char.ofNat n), 2) := by
  have ha : (UInt8.ofNat (n / 4096 % 0x10 + 0xE0)).toNat = n / 4096 % 0x10 + 0xE0 :=
    toNat_ofNat_byte (by omega)
  have hfollows : follows (UInt8.ofNat (n / 4096 % 0x10 + 0xE0))
      (UInt8.ofNat (n / 64 % 0x40 + 0x80)) = true :=
    follows_ofNat (by omega) (by omega) (by split_ifs <;> omega) (by split_ifs <;> omega)
  have hbits : ((n / 4096 % 0x10 + 0xE0) % 16 * 64 + (n / 64 % 0x40 + 0x80) % 64) * 64 +
      (n % 0x40 + 0x80) % 64 = n := by
    omega
  simp only [firstChar, UInt8.lt_iff_toNat_lt, UInt8.le_iff_toNat_le, ha, hfollows,
    continues_sixBits, sixBits, List.foldl_cons, List.foldl_nil, toNat_sixBits, hbits,
    UInt8.reduceToNat, if_true]
  rw [if_neg (by omega), if_neg (by omega), if_pos (by omega)]

theorem firstChar_four (hlow : 0x10000 ≤ n) (hhigh : n < 0x110000) :
    firstChar (UInt8.ofNat (n / 262144 % 0x08 + 0xF0)) (UInt8.ofNat (n / 4096 % 0x40 + 0x80) ::
        UInt8.ofNat (n / 64 % 0x40 + 0x80) :: UInt8.ofNat (n % 0x40 + 0x80) :: r) =
      (some (Char.ofNat n), 3) := by
  have ha : (UInt8.ofNat (n / 262144 % 0x08 + 0xF0)).toNat = n / 262144 % 0x08 + 0xF0 :=
    toNat_ofNat_byte (by omega)
  have hfollows : follows (UInt8.ofNat (n / 262144 % 0x08 + 0xF0))
      (UInt8.ofNat (n / 4096 % 0x40 + 0x80)) = true :=
    follows_ofNat (by omega) (by omega) (by split_ifs <;> omega) (by split_ifs <;> omega)
  have hbits : (((n / 262144 % 0x08 + 0xF0) % 8 * 64 + (n / 4096 % 0x40 + 0x80) % 64) * 64 +
      (n / 64 % 0x40 + 0x80) % 64) * 64 + (n % 0x40 + 0x80) % 64 = n := by
    omega
  simp only [firstChar, UInt8.lt_iff_toNat_lt, UInt8.le_iff_toNat_le, ha, hfollows,
    continues_sixBits, sixBits, List.foldl_cons, List.foldl_nil, toNat_sixBits, hbits,
    UInt8.reduceToNat, if_true]
  rw [if_neg (by omega), if_neg (by omega), if_neg (by omega), if_pos (by omega)]

end Character

/-- The bytes of a character are read as it, and the first one continues no other. -/
theorem exists_utf8EncodeChar_eq (c : Char) : ∃ a s, String.utf8EncodeChar c = a :: s ∧
    continues a = false ∧ ∀ r, firstChar a (s ++ r) = (some c, s.length) := by
  have hvalid : c.val.toNat < 0xD800 ∨ 0xDFFF < c.val.toNat ∧ c.val.toNat < 0x110000 := c.valid
  have hchar : Char.ofNat c.val.toNat = c := Char.ofNat_toNat c
  rw [String.utf8EncodeChar]
  generalize c.val.toNat = n at hvalid hchar ⊢
  subst hchar
  by_cases h1 : n ≤ 0x7F
  · have hbyte : UInt8.ofNat n < 0x80 := by
      rw [UInt8.lt_iff_toNat_lt, toNat_ofNat_byte (by omega)]
      exact Nat.lt_succ_of_le h1
    rw [if_pos h1]
    refine ⟨_, _, rfl, continues_eq_false hbyte, fun r => ?_⟩
    rw [firstChar.eq_def, if_pos hbyte, toNat_ofNat_byte (by omega)]
    rfl
  · by_cases h2 : n ≤ 0x7FF
    · rw [if_neg h1, if_pos h2]
      exact ⟨_, _, rfl, continues_first (by omega) (by omega),
        fun r => firstChar_two n r (by omega) (by omega)⟩
    · by_cases h3 : n ≤ 0xFFFF
      · rw [if_neg h1, if_neg h2, if_pos h3]
        exact ⟨_, _, rfl, continues_first (by omega) (by omega),
          fun r => firstChar_three n r (by omega) (by omega) (by omega)⟩
      · rw [if_neg h1, if_neg h2, if_neg h3]
        exact ⟨_, _, rfl, continues_first (by omega) (by omega),
          fun r => firstChar_four n r (by omega) (by omega)⟩

/-- Between other bytes, those of a character are read as that character. -/
theorem readUtf8_append_utf8EncodeChar (bad : List UInt8 → List Char) (c : Char)
    (s r : List UInt8) :
    readUtf8 bad (s ++ (String.utf8EncodeChar c ++ r)) = readUtf8 bad s ++ c :: readUtf8 bad r := by
  obtain ⟨a, t, hbytes, hfirst, hchar⟩ := exists_utf8EncodeChar_eq c
  rw [hbytes, List.cons_append, readUtf8_append hfirst, readUtf8, hchar]
  simp only [List.drop_left]

/-- A text is read back from its bytes. -/
theorem replaceInvalid_utf8 (cs : List Char) : replaceInvalid (utf8 cs) = cs := by
  induction cs with
  | nil => rw [utf8, List.flatMap_nil, replaceInvalid, readUtf8]
  | cons c cs ih =>
      rw [replaceInvalid] at ih ⊢
      have hread := readUtf8_append_utf8EncodeChar (fun _ => ['\ufffd']) c [] (utf8 cs)
      rw [List.nil_append, readUtf8, List.nil_append, ih] at hread
      rw [utf8, List.flatMap_cons, ← utf8, hread]

end ServiceDoc.Text
