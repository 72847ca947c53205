import Mathlib
import ServiceDoc.Proofs.Xml.Head
import ServiceDoc.Proofs.Xml.Utf8
/-!
# Documents in ISO-8859-1

A text that declares ISO-8859-1 may be given as it is, and then its encoding is settled, or as its
bytes, and then its head is read as UTF-8 before the rest is decoded. Behind the head, UTF-8 makes
something else of the bytes, which does not matter: the head is read alike whatever follows it, and
takes as many bytes as it has characters. So both ways lead to the same symbols
(`ofBytes_latinBytes`).
-/

namespace ServiceDoc.Xml

/-- The bytes of a text in ISO-8859-1. -/
def latinBytes (cs : List Char) : List UInt8 := cs.map fun c => UInt8.ofNat c.toNat

/-- Characters that ISO-8859-1 has and that stand in names there exactly where they do elsewhere. -/
def IsCommonLatin (c : Char) : Prop :=
  c.toNat ≤ 0xFF ∧ c.toNat ≠ 0xAA ∧ c.toNat ≠ 0xB5 ∧ c.toNat ≠ 0xBA

instance (c : Char) : Decidable (IsCommonLatin c) := inferInstanceAs (Decidable (_ ∧ _))

theorem latinBytes_append (cs ds : List Char) :
    latinBytes (cs ++ ds) = latinBytes cs ++ latinBytes ds := List.map_append

theorem length_latinBytes (cs : List Char) : (latinBytes cs).length = cs.length := List.length_map _

/-! ## Decoding -/

namespace Encoding

theorem latinSymbol_of_isCommonLatin {c : Char} (h : IsCommonLatin c) :
    latinSymbol c = .ofChar c := by
  obtain ⟨-, hfeminine, hmicro, hmasculine⟩ := h
  have hrole : latinRole c = .of c := if_neg (by simp [hfeminine, hmicro, hmasculine])
  rw [latinSymbol, hrole]
  rfl

theorem decode_latinBytes {cs : List Char} (h : ∀ c ∈ cs, IsCommonLatin c) :
    latin1.decode (latinBytes cs) = symbols cs := by
  rw [decode, latinBytes, List.map_map, symbols]
  refine List.map_congr_left fun c hc => ?_
  have hbyte : (UInt8.ofNat c.toNat).toNat = c.toNat :=
    toNat_ofNat_byte (Nat.lt_succ_of_le (h c hc).1)
  rw [Function.comp_apply, hbyte, Char.ofNat_toNat, latinSymbol_of_isCommonLatin (h c hc)]

theorem decodeUtf8_append (acc kept : List Symbol) (bytes : List UInt8) :
    decodeUtf8 (acc ++ kept) bytes = kept.reverse ++ decodeUtf8 acc bytes := by
  fun_induction decodeUtf8 acc bytes with
  | case1 acc => simp [decodeUtf8]
  | case2 acc a b r hlength ih =>
      rw [decodeUtf8.eq_def]
      simpa only [hlength, List.cons_append] using ih
  | case3 acc a b c r hlength ih =>
      rw [decodeUtf8.eq_def]
      simpa only [hlength, List.cons_append] using ih
  | case4 acc a b c d r hlength ih =>
      rw [decodeUtf8.eq_def]
      simpa only [hlength, List.cons_append] using ih
  | case5 acc a r hlength ih =>
      rw [decodeUtf8.eq_def]
      simpa only [hlength, List.cons_append] using ih
  | case6 acc a r hone htwo hthree hfour =>
      rw [decodeUtf8.eq_def]
      dsimp only
      split
      · next b r hlength => exact (htwo b r hlength rfl).elim
      · next b c r hlength => exact (hthree b c r hlength rfl).elim
      · next b c d r hlength => exact (hfour b c d r hlength rfl).elim
      · next hlength => exact (hone hlength).elim
      · simp

/-- The symbols so far are kept as they are. -/
theorem decodeUtf8_eq_append (acc : List Symbol) (bytes : List UInt8) :
    decodeUtf8 acc bytes = acc.reverse ++ decodeUtf8 [] bytes :=
  decodeUtf8_append [] acc bytes

/-- ASCII is read alike, whatever follows it. -/
theorem decode_latinBytes_append {cs : List Char} (h : ∀ c ∈ cs, c.toNat < 0x80) (r : List UInt8) :
    utf8.decode (latinBytes cs ++ r) = symbols cs ++ utf8.decode r := by
  induction cs with
  | nil => rfl
  | cons c cs ih =>
      change decodeUtf8 [] (UInt8.ofNat c.toNat :: (latinBytes cs ++ r)) = _
      rw [decodeUtf8_one _ _ _ (h c List.mem_cons_self), decodeUtf8_eq_append, charSymbol_toNat]
      change _ ++ utf8.decode (latinBytes cs ++ r) = _
      rw [ih fun d hd => h d (List.mem_cons_of_mem c hd)]
      rfl

end Encoding

/-! ## Documents -/

/-- The name of the encoding. -/
def latinName : List Char := "ISO-8859-1".toList

namespace Document

/-- A text that begins with a head is read from behind it on, whatever the head declares. -/
theorem ofText_headText {name : List Char} (h : isEncodingName name) (cs : List Char) :
    ofText (String.ofList (headText name ++ cs)) =
      (readBody false (symbols cs)).mapError (locate (symbols (headText name ++ cs))) := by
  have hwide : looksWide (headText name ++ cs) = false := rfl
  have hsymbols : ofSymbols (symbols (headText name ++ cs)) (symbols (headText name ++ cs)) =
      (readBody false (symbols cs)).mapError (locate (symbols (headText name ++ cs))) := by
    rw [ofSymbols, symbols_append, readHead_headText h]
    dsimp only [Option.map_some, Option.getD_some]
    cases readBody false (symbols cs) <;> rfl
  rw [ofText, String.toList_ofList, hwide]
  exact hsymbols

theorem forall_mem_headText : ∀ c ∈ headText latinName, c.toNat < 0x80 := by
  have hall : (headText latinName).all (fun c => c.toNat < 0x80) = true := rfl
  exact fun c hc => of_decide_eq_true (List.all_eq_true.1 hall c hc)

/-- The bytes of a text in ISO-8859-1 that declares so are read like the text. -/
theorem ofBytes_latinBytes {cs : List Char} (h : ∀ c ∈ cs, IsCommonLatin c) :
    ofBytes (latinBytes (headText latinName ++ cs)) =
      (readBody false (symbols cs)).mapError (locate (symbols (headText latinName ++ cs))) := by
  have hname : isEncodingName latinName := rfl
  have hdetect : Encoding.detect? (latinBytes (headText latinName ++ cs)) = some ⟨.utf8, 0⟩ :=
    Encoding.detect?_head _
  have hdecode : Encoding.utf8.decode (latinBytes (headText latinName ++ cs)) =
      symbols (headText latinName) ++ Encoding.utf8.decode (latinBytes cs) := by
    rw [latinBytes_append]
    exact Encoding.decode_latinBytes_append forall_mem_headText _
  have hswitch : switchTo .utf8 latinName = .ok .latin1 := by
    cbv
  have hlatin : ∀ c ∈ headText latinName ++ cs, IsCommonLatin c := by
    rw [List.forall_mem_append]
    refine ⟨fun c hc => ?_, h⟩
    have hc := forall_mem_headText c hc
    exact ⟨by omega, by omega, by omega, by omega⟩
  have hsize : 0 + ((symbols (headText latinName) ++ Encoding.utf8.decode (latinBytes cs)).length -
      (Encoding.utf8.decode (latinBytes cs)).length) * Encoding.utf8.unitSize =
        (latinBytes (headText latinName)).length := by
    have hunit : Encoding.utf8.unitSize = 1 := rfl
    rw [List.length_append, Nat.add_sub_cancel, symbols, List.length_map, length_latinBytes, hunit,
      Nat.mul_one, Nat.zero_add]
  rw [ofBytes, hdetect]
  dsimp only
  rw [ofDetected]
  dsimp only
  rw [List.drop_zero, hdecode, readHead_headText hname]
  dsimp only
  rw [hswitch]
  dsimp only
  rw [hsize, latinBytes_append, List.drop_left, ← latinBytes_append,
    Encoding.decode_latinBytes hlatin, Encoding.decode_latinBytes h]
  cases readBody false (symbols cs) <;> rfl

/-- A text and its bytes in the encoding that it declares are one document. -/
theorem ofBytes_latinBytes_eq_ofText {cs : List Char} (h : ∀ c ∈ cs, IsCommonLatin c) :
    ofBytes (latinBytes (headText latinName ++ cs)) =
      ofText (String.ofList (headText latinName ++ cs)) := by
  rw [ofBytes_latinBytes h, ofText_headText rfl]

end Document

end ServiceDoc.Xml
