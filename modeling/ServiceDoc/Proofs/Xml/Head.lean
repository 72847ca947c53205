import Mathlib
import ServiceDoc.Proofs.Xml.WrittenTag
import ServiceDoc.Xml.Document
/-!
# Heads that declare an encoding

A head is read before the encoding that it declares is known, so what is read of it may not depend
on what follows: `readHead_headText` holds for any symbols behind the head, be they the rest of a
document or what the wrong encoding makes of it.
-/

namespace ServiceDoc.Xml

/-- The characters of names of encodings. -/
def isEncodingChar (c : Char) : Bool := c.isAlphanum || c = '.' || c = '-' || c = '_'

/-- Names that a head can declare: a letter, then letters, digits and marks. -/
def isEncodingName : List Char → Bool
  | c :: cs => c.isAlpha && (c :: cs).all isEncodingChar
  | [] => false

/-- A property in a head, without the blank before it. -/
def itemText (key value : List Char) : List Char := key ++ '=' :: '\x22' :: (value ++ ['\x22'])

/-- What stands behind `<?xml` in a head of version 1.0 that declares an encoding. -/
def headBody (name : List Char) : List Char :=
  ' ' :: (itemText ['v', 'e', 'r', 's', 'i', 'o', 'n'] ['1', '.', '0'] ++
    ' ' :: itemText ['e', 'n', 'c', 'o', 'd', 'i', 'n', 'g'] name)

/-- A head of version 1.0 that declares an encoding. -/
def headText (name : List Char) : List Char :=
  '<' :: '?' :: (['x', 'm', 'l'] ++ (headBody name ++ ['?', '>']))

/-! ## Characters -/

theorem toNat_of_isAlphanum {c : Char} (h : c.isAlphanum) : 48 ≤ c.toNat ∧ c.toNat ≤ 122 := by
  simp only [Char.isAlphanum, Char.isAlpha, Char.isUpper, Char.isLower, Char.isDigit,
    Bool.or_eq_true, Bool.and_eq_true, decide_eq_true_eq, UInt32.le_iff_toNat_le, ge_iff_le] at h
  change ((65 ≤ c.toNat ∧ c.toNat ≤ 90) ∨ (97 ≤ c.toNat ∧ c.toNat ≤ 122)) ∨
    (48 ≤ c.toNat ∧ c.toNat ≤ 57) at h
  omega

theorem isLegal_of_isEncodingChar {c : Char} (h : isEncodingChar c) : isLegal c := by
  simp only [isEncodingChar, Bool.or_eq_true, decide_eq_true_eq] at h
  rcases h with ((h | rfl) | rfl) | rfl
  · have hc := toNat_of_isAlphanum h
    have hlow : 0x20 ≤ c.toNat := by omega
    have hhigh : c.toNat ≠ 0xFFFE ∧ c.toNat ≠ 0xFFFF := by omega
    simp [isLegal, hlow, hhigh]
  all_goals rfl

theorem ofChar_of_isEncodingChar {c : Char} (h : isEncodingChar c) :
    Symbol.ofChar c = .char c (.of c) := ofChar_of_isLegal (isLegal_of_isEncodingChar h)

theorem isEncodingChar_of_isAlpha {c : Char} (h : c.isAlpha) : isEncodingChar c := by
  simp [isEncodingChar, Char.isAlphanum, h]

/-- A letter stands for itself in a head: it ends nothing. -/
theorem isBlank_of_isAlpha {c : Char} (h : c.isAlpha) (role : NameRole) :
    Symbol.isBlank (.char c role) = false := by
  simp only [Symbol.isBlank, Bool.or_eq_false_iff, decide_eq_false_iff_not]
  refine ⟨⟨⟨?_, ?_⟩, ?_⟩, ?_⟩
  all_goals
    rintro rfl
    cases h

theorem ne_of_isAlpha {c d : Char} (h : c.isAlpha) (hd : d.isAlpha = false) : c ≠ d := by
  rintro rfl
  rw [h] at hd
  cases hd

/-! ## Properties -/

theorem itemValue_symbols {value : List Char} (h : ∀ c ∈ value, isEncodingChar c) (acc : List Char)
    (r : List Symbol) :
    Heading.itemValue '\x22' acc (symbols value ++ .char '\x22' .other :: r) =
      .ok (acc.reverse ++ value, r) := by
  induction value generalizing acc with
  | nil => simp [Heading.itemValue]
  | cons c value ih =>
      have hc := h c List.mem_cons_self
      have hquote : c ≠ '\x22' := by
        rintro rfl
        cases hc
      rw [symbols_cons, List.cons_append, ofChar_of_isEncodingChar hc, Heading.itemValue,
        if_neg hquote, if_pos (by simpa [isEncodingChar, or_assoc] using hc),
        ih (fun d hd => h d (List.mem_cons_of_mem c hd))]
      simp

theorem itemName_symbols {key : List Char} (h : ∀ c ∈ key, c.isAlpha) (acc : List Char)
    (r : List Symbol) :
    Heading.itemName acc (symbols key ++ .char '=' .other :: r) =
      .ok (acc.reverse ++ key, .char '=' .other :: r) := by
  induction key generalizing acc with
  | nil => simp [Heading.itemName]
  | cons c key ih =>
      have hc := h c List.mem_cons_self
      have hascii : ¬ 0x80 ≤ c.toNat := by
        have := toNat_of_isAlphanum (c := c) (by simp [Char.isAlphanum, hc])
        omega
      have hend : ¬ (c = '=' ∨ Symbol.isBlank (.char c (.of c)) = true) := by
        rw [isBlank_of_isAlpha hc]
        exact not_or.2 ⟨ne_of_isAlpha hc rfl, Bool.false_ne_true⟩
      rw [symbols_cons, List.cons_append, ofChar_of_isEncodingChar (isEncodingChar_of_isAlpha hc),
        Heading.itemName, if_neg hascii, if_neg hend,
        ih (fun d hd => h d (List.mem_cons_of_mem c hd))]
      · simp
      · intro _ _ _ hquestion
        exact ne_of_isAlpha hc rfl hquestion

/-- A property behind a blank is read with its value, and with where they stand. -/
theorem nextItem?_itemText (key value : List Char) (hne : key ≠ []) (hkey : ∀ d ∈ key, d.isAlpha)
    (hvalue : ∀ d ∈ value, isEncodingChar d) (r : List Symbol) :
    Heading.nextItem? (.char ' ' .other :: (symbols (itemText key value) ++ r)) =
      .ok (some ⟨key, symbols (itemText key value) ++ r, value,
        symbols (value ++ ['\x22']) ++ r⟩, r) := by
  obtain ⟨c, key, rfl⟩ := List.exists_cons_of_ne_nil hne
  have hc := hkey c List.mem_cons_self
  have hsymbol := ofChar_of_isEncodingChar (isEncodingChar_of_isAlpha hc)
  have hvalueAt : symbols (value ++ ['\x22']) ++ r = symbols value ++ .char '\x22' .other :: r := by
    rw [symbols_append, List.append_assoc]
    rfl
  have ht : symbols (itemText (c :: key) value) ++ r =
      symbols (c :: key) ++ .char '=' .other :: .char '\x22' .other ::
        (symbols (value ++ ['\x22']) ++ r) := by
    rw [itemText, symbols_append, List.append_assoc]
    rfl
  have hname := itemName_symbols hkey [] (.char '\x22' .other :: (symbols (value ++ ['\x22']) ++ r))
  rw [← ht, List.reverse_nil, List.nil_append] at hname
  have hvalueRead := itemValue_symbols hvalue [] r
  rw [← hvalueAt] at hvalueRead
  generalize symbols (value ++ ['\x22']) ++ r = valueAt at ht hname hvalueRead ⊢
  generalize symbols (itemText (c :: key) value) ++ r = t at ht hname ⊢
  rw [symbols_cons, hsymbol, List.cons_append] at ht
  have hstart : Heading.isEnd (.char ' ' .other :: t) = false := rfl
  have hskip : skipBlanks (.char ' ' .other :: t) = t := by
    have hblank := isBlank_of_isAlpha hc (.of c)
    rw [skipBlanks, List.dropWhile_cons_of_pos rfl, ht, List.dropWhile_cons_of_neg]
    rw [hblank]
    exact Bool.false_ne_true
  have hlength : t.length ≠ (Symbol.char ' ' .other :: t).length := by
    rw [List.length_cons]
    omega
  have hend : Heading.isEnd t = false := by
    unfold Heading.isEnd
    split
    · injection ht with hhead
      injection hhead with hquestion
      exact absurd hquestion.symm (ne_of_isAlpha hc rfl)
    · rfl
  have hequals : skipBlanks (.char '=' .other :: .char '\x22' .other :: valueAt) =
      .char '=' .other :: .char '\x22' .other :: valueAt := rfl
  have hquote : skipBlanks (.char '\x22' .other :: valueAt) = .char '\x22' .other :: valueAt := rfl
  unfold Heading.nextItem?
  dsimp only
  rw [hstart, if_neg Bool.false_ne_true, hskip, if_neg hlength, hend, if_neg Bool.false_ne_true,
    hname]
  dsimp only
  rw [hequals]
  simp only [List.isEmpty_cons, Bool.false_eq_true, if_false, hquote, true_or, if_true, hvalueRead,
    List.reverse_nil, List.nil_append]

/-! ## The head -/

/-- Whether a character may stand in an instruction and does not begin its end. -/
def isBodyChar (c : Char) : Bool := isLegal c && c != '?'

theorem scanInstructionBody_symbols {cs : List Char} (h : ∀ c ∈ cs, isBodyChar c)
    (r : List Symbol) :
    scanInstructionBody (symbols cs ++ .char '?' .other :: .char '>' .other :: r) = .ok r := by
  induction cs with
  | nil => rfl
  | cons c cs ih =>
      have hc := h c List.mem_cons_self
      rw [isBodyChar, Bool.and_eq_true, bne_iff_ne] at hc
      rw [symbols_cons, List.cons_append, ofChar_of_isLegal hc.1, scanInstructionBody,
        ih fun d hd => h d (List.mem_cons_of_mem c hd)]
      · intro _ _ _ hquestion
        exact absurd hquestion hc.2
      · intro _ hquestion
        exact absurd hquestion hc.2

theorem isBodyChar_of_isEncodingChar {c : Char} (h : isEncodingChar c) : isBodyChar c := by
  rw [isBodyChar, Bool.and_eq_true, bne_iff_ne]
  refine ⟨isLegal_of_isEncodingChar h, ?_⟩
  rintro rfl
  cases h

theorem forall_mem_headBody {name : List Char} (h : ∀ c ∈ name, isEncodingChar c) :
    ∀ c ∈ headBody name, isBodyChar c := by
  have hbody : headBody name = (headBody []).dropLast ++ (name ++ ['\x22']) := rfl
  rw [hbody, List.forall_mem_append, List.forall_mem_append]
  exact ⟨List.all_eq_true.1 rfl, fun c hc => isBodyChar_of_isEncodingChar (h c hc),
    List.all_eq_true.1 rfl⟩

theorem scanInstruction_headBody {name : List Char} (h : ∀ c ∈ name, isEncodingChar c)
    (r : List Symbol) :
    scanInstruction (symbols ['x', 'm', 'l'] ++
      (symbols (headBody name) ++ .char '?' .other :: .char '>' .other :: r)) =
        .ok (.declaration, r) := by
  let t := symbols (headBody name).tail ++ .char '?' .other :: .char '>' .other :: r
  have hbody : symbols (headBody name) ++ .char '?' .other :: .char '>' .other :: r =
      .char ' ' .other :: t := rfl
  have hxml := scanName_symbols (n := ['x', 'm', 'l']) rfl ' ' t
  have hrest : scanInstructionBody t = .ok r :=
    scanInstructionBody_symbols (fun c hc => forall_mem_headBody h c (List.mem_of_mem_tail hc)) r
  rw [hbody, scanInstruction, hxml]
  change (scanInstructionBody t).map (fun r => (Instruction.declaration, r)) = _
  rw [hrest]
  rfl

theorem forall_mem_of_isEncodingName {name : List Char} (h : isEncodingName name) :
    (∀ c ∈ name, isEncodingChar c) ∧ (name.head?.map Char.isAlpha).getD false = true := by
  cases name with
  | nil => cases h
  | cons c cs =>
      rw [isEncodingName, Bool.and_eq_true, List.all_eq_true] at h
      exact ⟨h.2, h.1⟩

theorem read_headBody {name : List Char} (h : isEncodingName name) (r : List Symbol) :
    Heading.read (symbols (headBody name) ++ .char '?' .other :: .char '>' .other :: r) =
      .ok ⟨some (name, symbols (name ++ ['\x22']) ++ .char '?' .other :: .char '>' .other :: r),
        false⟩ := by
  obtain ⟨hname, hletter⟩ := forall_mem_of_isEncodingName h
  let last := Symbol.char '?' .other :: .char '>' .other :: r
  let second := Symbol.char ' ' .other ::
    (symbols (itemText ['e', 'n', 'c', 'o', 'd', 'i', 'n', 'g'] name) ++ last)
  have hbody : symbols (headBody name) ++ last = .char ' ' .other ::
      (symbols (itemText ['v', 'e', 'r', 's', 'i', 'o', 'n'] ['1', '.', '0']) ++ second) := by
    rw [headBody, symbols_cons, symbols_append, List.cons_append, List.append_assoc]
    rfl
  have hversion := nextItem?_itemText ['v', 'e', 'r', 's', 'i', 'o', 'n'] ['1', '.', '0'] nofun
    (List.all_eq_true.1 rfl) (List.all_eq_true.1 rfl) second
  have hencoding := nextItem?_itemText ['e', 'n', 'c', 'o', 'd', 'i', 'n', 'g'] name nofun
    (List.all_eq_true.1 rfl) hname last
  have hlast : Heading.nextItem? last = .ok (none, last) := rfl
  change Heading.read (symbols (headBody name) ++ last) = _
  rw [hbody, Heading.read, hversion]
  dsimp only
  rw [if_neg (by decide), hencoding]
  dsimp only
  rw [if_pos (by decide), if_pos hletter, hlast]

/-- The first bytes of a head show UTF-8. -/
theorem Encoding.detect?_head (r : List UInt8) :
    Encoding.detect? (0x3C :: 0x3F :: r) = some ⟨.utf8, 0⟩ := by
  rw [Encoding.detect?]
  · rfl
  · intro h
    cases h

namespace Document

/-- A head is read as it was written, whatever follows it. -/
theorem readHead_headText {name : List Char} (h : isEncodingName name) (rest : List Symbol) :
    readHead (symbols (headText name) ++ rest) =
      .ok (some ⟨some (name, symbols (name ++ ['\x22']) ++
        .char '?' .other :: .char '>' .other :: rest), false⟩, rest) := by
  have htext : symbols (headText name) ++ rest =
      .char '<' .other :: .char '?' .other :: (symbols ['x', 'm', 'l'] ++
        (symbols (headBody name) ++ .char '?' .other :: .char '>' .other :: rest)) := by
    rw [headText, symbols_cons, symbols_cons, symbols_append, symbols_append]
    simp only [List.cons_append, List.append_assoc]
    rfl
  have hdrop (t : List Symbol) : List.drop 3 (symbols ['x', 'm', 'l'] ++ t) = t := rfl
  rw [htext, readHead, scanInstruction_headBody (forall_mem_of_isEncodingName h).1]
  dsimp only
  rw [hdrop, read_headBody h]

end Document

end ServiceDoc.Xml
