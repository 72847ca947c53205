import Mathlib.Data.List.Basic
import ServiceDoc.Proofs.Text.Ascii
import ServiceDoc.Proofs.Text.Utf8
import ServiceDoc.Uri.Percent
/-!
# Writing and reading percent codes

A component may hold percent signs and digits, so what is written as percent codes is safe, and
writing it once more changes nothing. Reading is local: a percent code is over before any ASCII
character that is neither a percent sign nor a hexadecimal digit, and so is a sequence of bytes that
makes up a character. So a text can be read in parts between the places of such a character
(`percentDecode_append_cons`).
-/

namespace ServiceDoc.Uri

/-! ## Writing -/

/-- A set of safe characters that keeps the characters of percent codes as they are. -/
structure KeepsCodes (isSafe : Char → Bool) : Prop where
  percent : isSafe '%' = true
  digit : ∀ n < 16, isSafe (upperHexDigit n) = true

theorem keepsCodes_isPathSafe : KeepsCodes isPathSafe := ⟨by decide, by decide⟩

theorem keepsCodes_isQuerySafe : KeepsCodes isQuerySafe := ⟨by decide, by decide⟩

theorem keepsCodes_isFragmentSafe : KeepsCodes isFragmentSafe := ⟨by decide, by decide⟩

theorem keepsCodes_isUserSafe : KeepsCodes isUserSafe := ⟨by decide, by decide⟩

section Encode

variable {isSafe : Char → Bool} {cs : List Char}

theorem percentEncode_append (isSafe : Char → Bool) (s t : List Char) :
    percentEncode isSafe (s ++ t) = percentEncode isSafe s ++ percentEncode isSafe t :=
  List.flatMap_append

theorem percentEncode_cons_of_safe {c : Char} (h : isSafe c = true) (cs : List Char) :
    percentEncode isSafe (c :: cs) = c :: percentEncode isSafe cs := by
  rw [percentEncode, List.flatMap_cons, if_pos h]
  rfl

theorem percentEncode_eq_self (h : ∀ c ∈ cs, isSafe c = true) : percentEncode isSafe cs = cs := by
  induction cs with
  | nil => rfl
  | cons c cs ih =>
      rw [List.forall_mem_cons] at h
      rw [percentEncode_cons_of_safe h.1, ih h.2]

theorem mem_percentByte {b : UInt8} {d : Char} (h : d ∈ percentByte b) :
    d = '%' ∨ ∃ n < 16, d = upperHexDigit n := by
  have hb := b.toNat_lt
  simp only [percentByte, List.mem_cons, List.not_mem_nil, or_false] at h
  rcases h with rfl | rfl | rfl
  · exact .inl rfl
  · exact .inr ⟨b.toNat / 16, by omega, rfl⟩
  · exact .inr ⟨b.toNat % 16, by omega, rfl⟩

/-- What is written is a safe character of the text or part of a percent code. -/
theorem mem_percentEncode {d : Char} (h : d ∈ percentEncode isSafe cs) :
    (d ∈ cs ∧ isSafe d = true) ∨ d = '%' ∨ ∃ n < 16, d = upperHexDigit n := by
  obtain ⟨c, hc, hd⟩ := List.mem_flatMap.1 h
  split at hd
  · next hsafe =>
    obtain rfl := List.mem_singleton.1 hd
    exact .inl ⟨hc, hsafe⟩
  · obtain ⟨b, -, hb⟩ := List.mem_flatMap.1 hd
    exact .inr (mem_percentByte hb)

theorem isSafe_of_mem_percentEncode (hcodes : KeepsCodes isSafe) {d : Char}
    (h : d ∈ percentEncode isSafe cs) : isSafe d = true := by
  rcases mem_percentEncode h with ⟨-, hd⟩ | rfl | ⟨n, hn, rfl⟩
  · exact hd
  · exact hcodes.percent
  · exact hcodes.digit n hn

theorem percentEncode_percentEncode (hcodes : KeepsCodes isSafe) (cs : List Char) :
    percentEncode isSafe (percentEncode isSafe cs) = percentEncode isSafe cs :=
  percentEncode_eq_self fun _ h => isSafe_of_mem_percentEncode hcodes h

theorem percentEncode_ne_nil (hne : cs ≠ []) : percentEncode isSafe cs ≠ [] := by
  obtain ⟨c, cs, rfl⟩ := List.exists_cons_of_ne_nil hne
  cases hc : isSafe c with
  | true =>
      rw [percentEncode_cons_of_safe hc]
      exact List.cons_ne_nil _ _
  | false =>
      obtain ⟨b, bytes, hbytes⟩ :=
        List.exists_cons_of_ne_nil (String.utf8EncodeChar_ne_nil (c := c))
      simp [percentEncode, hc, Text.utf8, hbytes, percentByte]

/-- A text that was written without percent codes is the text itself. -/
theorem percentEncode_eq_self_of_notMem (h : '%' ∉ percentEncode isSafe cs) :
    percentEncode isSafe cs = cs := by
  refine percentEncode_eq_self fun c hc => ?_
  by_contra hsafe
  have hbytes : Text.utf8 [c] ≠ [] := by
    simp [Text.utf8, String.utf8EncodeChar_ne_nil]
  obtain ⟨b, hb⟩ := List.exists_mem_of_ne_nil _ hbytes
  refine h (List.mem_flatMap.2 ⟨c, hc, ?_⟩)
  rw [if_neg hsafe]
  exact List.mem_flatMap.2 ⟨b, hb, List.mem_cons_self⟩

end Encode

/-! ## Reading -/

/-- A character that does not begin a percent code stands for itself. -/
theorem percentBytes_cons {c : Char} {r : List Char}
    (h : ∀ a b s x y, c = '%' → r = a :: b :: s → hexDigit? a = some x → hexDigit? b ≠ some y) :
    percentBytes (c :: r) = c.toUInt8 :: percentBytes r := by
  rw [percentBytes.eq_def]
  split
  · contradiction
  · next a b s heq =>
    obtain ⟨rfl, rfl⟩ := List.cons.inj heq
    split
    · next x y ha hb => exact absurd hb (h a b s x y rfl rfl ha)
    · rfl
  · next heq =>
    obtain ⟨rfl, rfl⟩ := List.cons.inj heq
    rfl

/-- A percent code is over before a character that is no hexadecimal digit. -/
theorem percentBytes_append {c : Char} (hdigit : hexDigit? c = none) (s r : List Char) :
    percentBytes (s ++ c :: r) = percentBytes s ++ percentBytes (c :: r) := by
  fun_induction percentBytes s with
  | case1 => rfl
  | case2 a b s x y ha hb ih =>
      rw [List.cons_append, List.cons_append, List.cons_append, percentBytes]
      simp only [ha, hb, ih, List.cons_append]
  | case3 a b s hab ih =>
      rw [List.cons_append, percentBytes_cons, ih, List.cons_append]
      rintro a' b' t x y - heq
      simp only [List.cons_append, List.cons.injEq] at heq
      obtain ⟨rfl, rfl, -⟩ := heq
      exact hab x y
  | case4 d s hd ih =>
      rw [List.cons_append, percentBytes_cons, ih, List.cons_append]
      -- The digits of a percent code that the split parts would have `c` among them.
      rintro a b t x y rfl heq
      match s with
      | [] =>
          rw [List.nil_append, List.cons.injEq] at heq
          simp [← heq.1, hdigit]
      | [_] =>
          simp only [List.cons_append, List.nil_append, List.cons.injEq] at heq
          simp [← heq.2.1, hdigit]
      | a' :: b' :: s' => exact (hd a' b' s' rfl rfl).elim

/-- An ASCII text that is read as another text, whatever stands around it. -/
structure StandsFor (word meaning : List Char) : Prop where
  ascii : Text.IsAscii word
  read : ∀ s r, Text.replaceInvalid (percentBytes (s ++ (word ++ r))) =
    Text.replaceInvalid (percentBytes s) ++
      (meaning ++ Text.replaceInvalid (percentBytes r))

theorem percentDecodeFrom_append_of_isAscii {word : List Char} (h : Text.IsAscii word)
    (run r : List Char) :
    percentDecodeFrom run (word ++ r) = percentDecodeFrom (word.reverse ++ run) r := by
  induction word generalizing run with
  | nil => rfl
  | cons c word ih =>
      rw [Text.isAscii_cons] at h
      rw [List.cons_append, percentDecodeFrom, if_pos h.1, ih h.2, List.reverse_cons,
        List.append_assoc]
      rfl

namespace StandsFor

variable {word meaning : List Char} (h : StandsFor word meaning)

include h

theorem percentDecodeFrom_run_append (after run s : List Char) :
    percentDecodeFrom (after ++ (word.reverse ++ run)) s =
      Text.replaceInvalid (percentBytes run.reverse) ++ (meaning ++ percentDecodeFrom after s) := by
  have hrun (after : List Char) :
      Text.replaceInvalid (percentBytes (after ++ (word.reverse ++ run)).reverse) =
        Text.replaceInvalid (percentBytes run.reverse) ++
          (meaning ++ Text.replaceInvalid (percentBytes after.reverse)) := by
    rw [List.reverse_append, List.reverse_append, List.reverse_reverse, List.append_assoc]
    exact h.read run.reverse after.reverse
  induction s generalizing after with
  | nil => exact hrun after
  | cons d s ih =>
      rw [percentDecodeFrom, percentDecodeFrom]
      split
      · exact ih (d :: after)
      · rw [hrun, List.append_assoc, List.append_assoc]

theorem percentDecodeFrom_append (run s r : List Char) :
    percentDecodeFrom run (s ++ (word ++ r)) =
      percentDecodeFrom run s ++ (meaning ++ percentDecode r) := by
  induction s generalizing run with
  | nil =>
      rw [List.nil_append, percentDecodeFrom_append_of_isAscii h.ascii]
      exact h.percentDecodeFrom_run_append [] run r
  | cons d s ih =>
      rw [List.cons_append, percentDecodeFrom, percentDecodeFrom]
      split
      · exact ih (d :: run)
      · rw [ih, List.append_assoc, List.cons_append]

theorem percentDecode_append (s r : List Char) :
    percentDecode (s ++ (word ++ r)) = percentDecode s ++ (meaning ++ percentDecode r) :=
  h.percentDecodeFrom_append [] s r

end StandsFor

/-! ## What stands for itself -/

/-- An ASCII character that is part of no percent code stands for itself. -/
theorem standsFor_self {c : Char} (hpercent : c ≠ '%') (hdigit : hexDigit? c = none)
    (hascii : c.toNat < 0x80) : StandsFor [c] [c] where
  ascii := by simpa using ⟨hascii, Text.isAscii_nil⟩
  read s r := by
    have hval : c.toUInt8.toNat = c.toNat := Text.toNat_ofNat_toNat hascii
    have hbyte : c.toUInt8 < 0x80 := by
      rw [UInt8.lt_iff_toNat_lt, hval]
      exact hascii
    have hself : percentBytes (c :: r) = c.toUInt8 :: percentBytes r :=
      percentBytes_cons fun _ _ _ _ _ h => absurd h hpercent
    rw [List.singleton_append, percentBytes_append hdigit, hself, Text.replaceInvalid,
      Text.readUtf8_append_cons hbyte, hval, Char.ofNat_toNat]
    rfl

theorem percentDecode_append_cons {c : Char} (hpercent : c ≠ '%') (hdigit : hexDigit? c = none)
    (hascii : c.toNat < 0x80) (s r : List Char) :
    percentDecode (s ++ c :: r) = percentDecode s ++ c :: percentDecode r :=
  (standsFor_self hpercent hdigit hascii).percentDecode_append s r

/-- A character outside ASCII parts what is read. -/
theorem percentDecode_append_cons_of_not_ascii {c : Char} (h : ¬ c.toNat < 0x80)
    (s r : List Char) :
    percentDecode (s ++ c :: r) = percentDecode s ++ c :: percentDecode r := by
  suffices hfrom : ∀ run, percentDecodeFrom run (s ++ c :: r) =
      percentDecodeFrom run s ++ c :: percentDecode r from hfrom []
  induction s with
  | nil =>
      intro run
      rw [List.nil_append, percentDecodeFrom.eq_def]
      simp only [if_neg h]
      rfl
  | cons d s ih =>
      intro run
      rw [List.cons_append, percentDecodeFrom, percentDecodeFrom]
      split
      · exact ih (d :: run)
      · rw [ih, List.append_assoc, List.cons_append]

theorem percentDecode_nil : percentDecode [] = [] := by
  rw [percentDecode, percentDecodeFrom, List.reverse_nil, percentBytes, Text.replaceInvalid,
    Text.readUtf8]

/-- A slash is part of no percent code. -/
theorem percentDecode_append_slash (s r : List Char) :
    percentDecode (s ++ '/' :: r) = percentDecode s ++ '/' :: percentDecode r :=
  percentDecode_append_cons (by decide) (by decide) (by decide) s r

/-! ## Reading what was written -/

theorem hexDigit?_upperHexDigit {n : Nat} (h : n < 16) :
    hexDigit? (upperHexDigit n) = some (UInt8.ofNat n) := by
  have hall : ∀ n ∈ List.range 16, hexDigit? (upperHexDigit n) = some (UInt8.ofNat n) := by decide
  exact hall n (List.mem_range.2 h)

theorem percentBytes_append_percentByte (b : UInt8) (s r : List Char) :
    percentBytes (s ++ (percentByte b ++ r)) = percentBytes s ++ b :: percentBytes r := by
  have hb := b.toNat_lt
  have hhigh := hexDigit?_upperHexDigit (n := b.toNat / 16) (by omega)
  have hlow := hexDigit?_upperHexDigit (n := b.toNat % 16) (by omega)
  have hbyte : UInt8.ofNat (b.toNat / 16) * 16 + UInt8.ofNat (b.toNat % 16) = b := by
    rw [← UInt8.toNat_inj]
    simp
    omega
  rw [percentByte, List.cons_append, List.cons_append, List.cons_append, List.nil_append,
    percentBytes_append (by decide), percentBytes]
  simp only [hhigh, hlow, hbyte]

theorem percentBytes_flatMap_append (bytes : List UInt8) (r : List Char) :
    percentBytes (bytes.flatMap percentByte ++ r) = bytes ++ percentBytes r := by
  induction bytes with
  | nil => rfl
  | cons b bytes ih =>
      have hbyte := percentBytes_append_percentByte b [] (bytes.flatMap percentByte ++ r)
      rw [List.nil_append, percentBytes, List.nil_append, ih] at hbyte
      rw [List.flatMap_cons, List.append_assoc, hbyte, List.cons_append]

theorem isAscii_percentByte (b : UInt8) : Text.IsAscii (percentByte b) := by
  have hall : ∀ n < 16, (upperHexDigit n).toNat < 0x80 := by decide
  intro c hc
  rcases mem_percentByte hc with rfl | ⟨n, hn, rfl⟩
  · decide
  · exact hall n hn

/-- The percent codes of a character stand for it. -/
theorem standsFor_percentCodes (c : Char) :
    StandsFor ((Text.utf8 [c]).flatMap percentByte) [c] where
  ascii := Text.isAscii_flatMap fun b _ => isAscii_percentByte b
  read s r := by
    have hbytes : percentBytes (s ++ ((Text.utf8 [c]).flatMap percentByte ++ r)) =
        percentBytes s ++ (String.utf8EncodeChar c ++ percentBytes r) := by
      rw [Text.utf8, List.flatMap_singleton]
      obtain ⟨b, bytes, hcons⟩ := List.exists_cons_of_ne_nil (String.utf8EncodeChar_ne_nil (c := c))
      rw [hcons, List.flatMap_cons, List.append_assoc, percentBytes_append_percentByte,
        percentBytes_flatMap_append, List.cons_append]
    rw [hbytes]
    exact Text.readUtf8_append_utf8EncodeChar _ c _ _

/-- A set of safe characters without which no ASCII character is part of a percent code. -/
def SparesCodes (isSafe : Char → Bool) : Prop :=
  ∀ c, isSafe c = false → c.toNat < 0x80 → c ≠ '%' ∧ hexDigit? c = none

theorem sparesCodes_isPathSafe : SparesCodes isPathSafe := by
  have hall : ∀ n < 0x80, isPathSafe (Char.ofNat n) = false →
      Char.ofNat n ≠ '%' ∧ hexDigit? (Char.ofNat n) = none := by
    decide +kernel
  intro c hc hascii
  have hself := hall c.toNat hascii
  rw [Char.ofNat_toNat] at hself
  exact hself hc

/-- Writing a text in percent codes does not change what it is read as. -/
theorem percentDecode_percentEncode {isSafe : Char → Bool} (hsafe : SparesCodes isSafe)
    (cs : List Char) : percentDecode (percentEncode isSafe cs) = percentDecode cs := by
  -- What was passed already stands before both texts, as a code may begin there.
  suffices h : ∀ before, percentDecode (before ++ percentEncode isSafe cs) =
      percentDecode (before ++ cs) from h []
  induction cs with
  | nil => exact fun _ => rfl
  | cons c cs ih =>
      intro before
      cases hc : isSafe c with
      | true =>
          have hrest := ih (before ++ [c])
          rw [List.append_assoc, List.append_assoc] at hrest
          rw [percentEncode_cons_of_safe hc]
          exact hrest
      | false =>
          have hencode : percentEncode isSafe (c :: cs) =
              (Text.utf8 [c]).flatMap percentByte ++ percentEncode isSafe cs := by
            rw [percentEncode, List.flatMap_cons, hc, if_neg Bool.false_ne_true]
            rfl
          have hself : percentDecode (before ++ c :: cs) =
              percentDecode before ++ c :: percentDecode cs := by
            by_cases hascii : c.toNat < 0x80
            · obtain ⟨hpercent, hdigit⟩ := hsafe c hc hascii
              exact percentDecode_append_cons hpercent hdigit hascii before cs
            · exact percentDecode_append_cons_of_not_ascii hascii before cs
          rw [hencode, (standsFor_percentCodes c).percentDecode_append, hself]
          have hrest := ih []
          rw [List.nil_append, List.nil_append] at hrest
          rw [hrest]
          rfl

end ServiceDoc.Uri
