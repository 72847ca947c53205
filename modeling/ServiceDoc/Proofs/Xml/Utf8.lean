import ServiceDoc.Proofs.Xml.WrittenTag
import ServiceDoc.Text.Utf8
import ServiceDoc.Xml.Encoding
/-!
# Reading UTF-8 back

The bytes of a text, read as UTF-8, are the symbols of its characters: `decode_utf8`. A character
takes one to four bytes, and each case is the same three steps: the first byte tells how many there
are, the others continue it, and together they carry the number of the character.
-/

namespace ServiceDoc.Xml

namespace Encoding

theorem charSymbol_toNat (c : Char) : charSymbol c.toNat = .ofChar c := by
  have hv : c.toNat.isValidChar := c.valid
  rw [charSymbol, dif_pos hv]
  rfl

/-! ## Bytes -/

theorem toNat_ofNat_byte {n : Nat} (h : n < 256) : (UInt8.ofNat n).toNat = n :=
  UInt8.toNat_ofNat_of_lt h

/-- A byte that carries six bits of a number continues a character. -/
theorem isTrail_ofNat (n : Nat) : isTrail (UInt8.ofNat (n % 0x40 + 0x80)) = true := by
  have hb : (UInt8.ofNat (n % 0x40 + 0x80)).toNat = n % 0x40 + 0x80 :=
    toNat_ofNat_byte (by omega)
  rw [isTrail, Bool.and_eq_true, decide_eq_true_eq, decide_eq_true_eq, UInt8.le_iff_toNat_le,
    UInt8.lt_iff_toNat_lt, hb]
  change 0x80 ≤ _ ∧ _ < 0xC0
  omega

theorem trailBits_ofNat (n : Nat) : trailBits (UInt8.ofNat (n % 0x40 + 0x80)) = n % 0x40 := by
  rw [trailBits, toNat_ofNat_byte (by omega)]
  omega

theorem utf8Length_ofNat {n : Nat} (h : n < 256) :
    utf8Length (UInt8.ofNat n) =
      if 0xC0 ≤ n ∧ n < 0xE0 then 2
      else if 0xE0 ≤ n ∧ n < 0xF0 then 3
      else if 0xF0 ≤ n ∧ n ≤ 0xF4 then 4
      else 1 := by
  simp only [utf8Length, UInt8.le_iff_toNat_le, UInt8.lt_iff_toNat_lt, toNat_ofNat_byte h]
  rfl

/-! ## Characters -/

section Decode

variable (acc : List Symbol) (r : List UInt8) (n : Nat)

theorem decodeUtf8_one (h : n < 0x80) :
    decodeUtf8 acc (UInt8.ofNat n :: r) = decodeUtf8 (charSymbol n :: acc) r := by
  have hb : (UInt8.ofNat n).toNat = n := toNat_ofNat_byte (by omega)
  have hlength : utf8Length (UInt8.ofNat n) = 1 := by
    rw [utf8Length_ofNat (by omega), if_neg (by omega), if_neg (by omega), if_neg (by omega)]
  have hascii : UInt8.ofNat n < 0x80 := by
    rw [UInt8.lt_iff_toNat_lt, hb]
    exact h
  rw [decodeUtf8.eq_def]
  simp only [hlength, if_pos hascii, hb]

theorem decodeUtf8_two (hlow : 0x80 ≤ n) (hhigh : n < 0x800) :
    decodeUtf8 acc (UInt8.ofNat (n / 64 % 0x20 + 0xC0) :: UInt8.ofNat (n % 0x40 + 0x80) :: r) =
      decodeUtf8 (charSymbol n :: acc) r := by
  have ha : (UInt8.ofNat (n / 64 % 0x20 + 0xC0)).toNat = n / 64 % 0x20 + 0xC0 :=
    toNat_ofNat_byte (by omega)
  have hlength : utf8Length (UInt8.ofNat (n / 64 % 0x20 + 0xC0)) = 2 := by
    rw [utf8Length_ofNat (by omega), if_pos (by omega)]
  have hlead : 0xC2 ≤ UInt8.ofNat (n / 64 % 0x20 + 0xC0) := by
    rw [UInt8.le_iff_toNat_le, ha]
    change 0xC2 ≤ _
    omega
  have hbits : (n / 64 % 0x20 + 0xC0) % 32 * 64 + n % 0x40 = n := by omega
  rw [decodeUtf8.eq_def]
  simp only [hlength, utf8Two, if_pos (And.intro hlead (isTrail_ofNat n)), trailBits_ofNat, ha,
    hbits]

theorem decodeUtf8_three (hlow : 0x800 ≤ n) (hhigh : n < 0x10000) :
    decodeUtf8 acc (UInt8.ofNat (n / 4096 % 0x10 + 0xE0) :: UInt8.ofNat (n / 64 % 0x40 + 0x80) ::
        UInt8.ofNat (n % 0x40 + 0x80) :: r) =
      decodeUtf8 (charSymbol n :: acc) r := by
  have ha : (UInt8.ofNat (n / 4096 % 0x10 + 0xE0)).toNat = n / 4096 % 0x10 + 0xE0 :=
    toNat_ofNat_byte (by omega)
  have hlength : utf8Length (UInt8.ofNat (n / 4096 % 0x10 + 0xE0)) = 3 := by
    rw [utf8Length_ofNat (by omega), if_neg (by omega), if_pos (by omega)]
  have hbits : ((n / 4096 % 0x10 + 0xE0) % 16 * 64 + n / 64 % 0x40) * 64 + n % 0x40 = n := by
    omega
  rw [decodeUtf8.eq_def]
  simp only [hlength, utf8Three, isTrail_ofNat, trailBits_ofNat, ha, hbits, hlow, and_self, if_true]

theorem decodeUtf8_four (hlow : 0x10000 ≤ n) (hhigh : n < 0x110000) :
    decodeUtf8 acc (UInt8.ofNat (n / 262144 % 0x08 + 0xF0) ::
        UInt8.ofNat (n / 4096 % 0x40 + 0x80) :: UInt8.ofNat (n / 64 % 0x40 + 0x80) ::
        UInt8.ofNat (n % 0x40 + 0x80) :: r) =
      decodeUtf8 (charSymbol n :: acc) r := by
  have ha : (UInt8.ofNat (n / 262144 % 0x08 + 0xF0)).toNat = n / 262144 % 0x08 + 0xF0 :=
    toNat_ofNat_byte (by omega)
  have hlength : utf8Length (UInt8.ofNat (n / 262144 % 0x08 + 0xF0)) = 4 := by
    rw [utf8Length_ofNat (by omega), if_neg (by omega), if_neg (by omega), if_pos (by omega)]
  have hbits : (((n / 262144 % 0x08 + 0xF0) % 8 * 64 + n / 4096 % 0x40) * 64 + n / 64 % 0x40) * 64
      + n % 0x40 = n := by
    omega
  rw [decodeUtf8.eq_def]
  simp only [hlength, utf8Four, isTrail_ofNat, trailBits_ofNat, ha, hbits, hlow, and_self, if_true]

end Decode

/-- The bytes of a character are read as that character. -/
theorem decodeUtf8_utf8EncodeChar (acc : List Symbol) (c : Char) (r : List UInt8) :
    decodeUtf8 acc (String.utf8EncodeChar c ++ r) = decodeUtf8 (.ofChar c :: acc) r := by
  have hmax : c.val.toNat < 0x110000 := by
    rcases c.valid with h | h
    · exact Nat.lt_trans h (by decide)
    · exact h.2
  rw [← charSymbol_toNat, String.utf8EncodeChar]
  by_cases h1 : c.val.toNat ≤ 0x7F
  · simp only [if_pos h1]
    exact decodeUtf8_one acc r c.toNat (Nat.lt_succ_of_le h1)
  · by_cases h2 : c.val.toNat ≤ 0x7FF
    · simp only [if_neg h1, if_pos h2]
      exact decodeUtf8_two acc r c.toNat (Nat.lt_of_not_le h1) (Nat.lt_succ_of_le h2)
    · by_cases h3 : c.val.toNat ≤ 0xFFFF
      · simp only [if_neg h1, if_neg h2, if_pos h3]
        exact decodeUtf8_three acc r c.toNat (Nat.lt_of_not_le h2) (Nat.lt_succ_of_le h3)
      · simp only [if_neg h1, if_neg h2, if_neg h3]
        exact decodeUtf8_four acc r c.toNat (Nat.lt_of_not_le h3) hmax

/-- A text written in UTF-8 is read as the symbols of its characters. -/
theorem decode_utf8 (cs : List Char) : utf8.decode (Text.utf8 cs) = symbols cs := by
  suffices h : ∀ acc, decodeUtf8 acc (Text.utf8 cs) = acc.reverse ++ symbols cs by
    exact h []
  induction cs with
  | nil =>
      intro acc
      rw [Text.utf8, List.flatMap_nil, decodeUtf8, symbols_nil, List.append_nil]
  | cons c cs ih =>
      intro acc
      rw [Text.utf8, List.flatMap_cons, decodeUtf8_utf8EncodeChar, ← Text.utf8, ih]
      simp

/-- Whatever the bytes, what is read are characters by their numbers, and faults. -/
theorem mem_decodeUtf8 {acc : List Symbol} {bytes : List UInt8} {x : Symbol}
    (h : x ∈ decodeUtf8 acc bytes) :
    x ∈ acc ∨ x = .malformed ∨ x = .cut ∨ ∃ n, x = charSymbol n := by
  fun_induction decodeUtf8 acc bytes <;> grind [utf8Two, utf8Three, utf8Four]

/-- Only the character zero begins with a byte zero. -/
theorem exists_cons_utf8EncodeChar {c : Char} (h : c ≠ '\x00') :
    ∃ b t, String.utf8EncodeChar c = b :: t ∧ b ≠ 0 := by
  have hzero : c.val.toNat ≠ 0 := by
    intro h0
    exact h (Char.ext (UInt32.toNat_inj.1 h0))
  have hbyte : ∀ n, 0 < n → n < 256 → UInt8.ofNat n ≠ 0 := by
    intro n hpos hlt h0
    have hn : (0 : UInt8).toNat = n := h0 ▸ toNat_ofNat_byte hlt
    change 0 = n at hn
    omega
  rw [String.utf8EncodeChar]
  split
  · exact ⟨_, _, rfl, hbyte _ (by omega) (by omega)⟩
  · split
    · exact ⟨_, _, rfl, hbyte _ (by omega) (by omega)⟩
    · split
      · exact ⟨_, _, rfl, hbyte _ (by omega) (by omega)⟩
      · exact ⟨_, _, rfl, hbyte _ (by omega) (by omega)⟩

end Encoding

end ServiceDoc.Xml
