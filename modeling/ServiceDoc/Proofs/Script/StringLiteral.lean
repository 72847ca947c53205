import Mathlib
import ServiceDoc.Json.Reader
import ServiceDoc.Json.Text
/-!
# String literals of scripts

The value of a JavaScript string literal in double quotes, as units of UTF-16. A literal may not go
over the end of a line, except behind a backslash, which then joins the two lines. Otherwise a
backslash begins an escape: of a unit or a character by its number, of a control character by a
letter, or of any other character by itself.

A value never has more units than the literal has between its quotes, and less if there is an escape
in it. The characters that no escape is made of, such as a comma, are all in the value. These two
counts are what tells the literals that stand for themselves from the others (`Covers`).
-/

namespace ServiceDoc.Script

open Json (hexValue? unit? units)

/-- The units of a text. -/
def utf16 (s : List Char) : List Nat := s.flatMap units

/-- The units that a number of up to 0x10FFFF stands for, which need not be a character. -/
def numberUnits (n : Nat) : List Nat :=
  if n < 0x10000 then [n]
  else [0xD800 + (n - 0x10000) / 1024, 0xDC00 + (n - 0x10000) % 1024]

/-! ## Reading -/

def octalValue? (c : Char) : Option Nat :=
  if '0' ≤ c ∧ c ≤ '7' then some (c.toNat - 48) else none

/-- The number that goes on with the octal digits at the front of a text, at most so many of them,
and what follows these. -/
def readOctal : Nat → Nat → List Char → Nat × List Char
  | limit + 1, n, c :: s =>
    match octalValue? c with
    | some d => readOctal limit (8 * n + d) s
    | none => (n, c :: s)
  | _, n, s => (n, s)

/-- The units of two hexadecimal digits. -/
def readByte : List Char → Option (List Nat × List Char)
  | a :: b :: s => (hexValue? a).bind fun x => (hexValue? b).map fun y => ([16 * x + y], s)
  | _ => none

/-- The units of a hexadecimal number up to a closing brace, where `n?` is what has been read. -/
def readBraced (n? : Option Nat) : List Char → Option (List Nat × List Char)
  | [] => none
  | c :: s =>
    match hexValue? c with
    | some d => readBraced (some (16 * n?.getD 0 + d)) s
    | none =>
      match n? with
      | some n => if c = '\x7d' ∧ n ≤ 0x10FFFF then some (numberUnits n, s) else none
      | none => none

/-- The units of four hexadecimal digits, or of a number in braces. -/
def readUnicode : List Char → Option (List Nat × List Char)
  | '\x7b' :: s => readBraced none s
  | a :: b :: c :: d :: s => (unit? a b c d).map fun n => ([n], s)
  | _ => none

def isLineEnd (c : Char) : Bool := c = '\n' ∨ c = '\r' ∨ c = '\u2028' ∨ c = '\u2029'

/-- What follows the end of a line, which a line feed may be a part of. -/
def afterLineEnd (c : Char) : List Char → List Char
  | '\n' :: s => if c = '\r' then s else '\n' :: s
  | s => s

/-- The character that is meant by one behind a backslash. -/
def escaped (c : Char) : Char :=
  if c = 'b' then '\x08'
  else if c = 't' then '\t'
  else if c = 'n' then '\n'
  else if c = 'v' then '\x0b'
  else if c = 'f' then '\x0c'
  else if c = 'r' then '\r'
  else c

/-- The units that an escape stands for, and what follows it; its backslash has been read. -/
def readEscape : List Char → Option (List Nat × List Char)
  | [] => none
  | c :: s =>
    if c = 'x' then readByte s
    else if c = 'u' then readUnicode s
    else if isLineEnd c then some ([], afterLineEnd c s)
    else
      match octalValue? c with
      | some n =>
        let r := readOctal (if n < 4 then 2 else 1) n s
        some ([r.1], r.2)
      | none => some (units (escaped c), s)

/-! ## What escapes are made of -/

/-- Some characters that no escape is made of. -/
def separators : List Char := [',', ';']

/-- Whether units may stand for some characters: they are not more, and all separators are there. -/
structure Covers (us : List Nat) (e : List Char) : Prop where
  length_le : us.length ≤ (utf16 e).length
  count_le : ∀ c ∈ separators, e.count c ≤ us.count c.toNat

/-- Whether a character may be in the number of an escape. -/
def isNumberChar (c : Char) : Bool := (hexValue? c).isSome ∨ c = '\x7b' ∨ c = '\x7d'

theorem utf16_cons (c : Char) (s : List Char) : utf16 (c :: s) = units c ++ utf16 s := rfl

theorem utf16_append (s t : List Char) : utf16 (s ++ t) = utf16 s ++ utf16 t := List.flatMap_append

theorem length_units_pos (c : Char) : 0 < (units c).length := by
  rw [units]
  split <;> simp

theorem length_le_utf16 (e : List Char) : e.length ≤ (utf16 e).length := by
  induction e with
  | nil => simp
  | cons c e ih =>
      have hpos := length_units_pos c
      rw [utf16_cons, List.length_append, List.length_cons]
      omega

theorem count_utf16 {c : Char} (h : c.toNat < 0xD800) (s : List Char) :
    (utf16 s).count c.toNat = s.count c := by
  have hunits (d : Char) : (units d).count c.toNat = [d].count c := by
    rw [units]
    split
    · simp only [List.count_singleton, beq_iff_eq, Char.toNat_inj]
    · next hd =>
      have hne : d ≠ c := by
        rintro rfl
        omega
      have hhigh : 0xD800 + (d.toNat - 0x10000) / 1024 ≠ c.toNat := by omega
      have hlow : 0xDC00 + (d.toNat - 0x10000) % 1024 ≠ c.toNat := by omega
      simp [hne, hhigh, hlow]
  induction s with
  | nil => rfl
  | cons d s ih =>
      rw [utf16_cons, List.count_append, ih, hunits, ← List.count_append, List.singleton_append]

theorem Covers.of_notMem {us : List Nat} {e : List Char} (hlength : us.length ≤ e.length)
    (h : ∀ c ∈ separators, c ∉ e) : Covers us e where
  length_le := hlength.trans (length_le_utf16 e)
  count_le c hc := by
    rw [List.count_eq_zero.2 (h c hc)]
    exact Nat.zero_le _

/-- Units cover characters of a kind that no separator is of, if they are not more than these. -/
theorem Covers.of_forall {us : List Nat} {e : List Char} {p : Char → Bool}
    (hp : ∀ c ∈ separators, p c = false) (hlength : us.length ≤ e.length) (h : ∀ c ∈ e, p c) :
    Covers us e := by
  refine .of_notMem hlength ?_
  intro c hc hmem
  have hboth := h c hmem
  rw [hp c hc] at hboth
  cases hboth

theorem Covers.append {us us' : List Nat} {e e' : List Char} (h : Covers us e)
    (h' : Covers us' e') : Covers (us ++ us') (e ++ e') where
  length_le := by
    rw [utf16_append, List.length_append, List.length_append]
    exact Nat.add_le_add h.length_le h'.length_le
  count_le c hc := by
    rw [List.count_append, List.count_append]
    exact Nat.add_le_add (h.count_le c hc) (h'.count_le c hc)

theorem Covers.of_isNumberChar {us : List Nat} {e : List Char} (hlength : us.length ≤ e.length)
    (h : ∀ c ∈ e, isNumberChar c) : Covers us e := by
  refine .of_forall ?_ hlength h
  intro c hc
  fin_cases hc <;> rfl

/-- A character is covered by its own units. -/
theorem covers_units (c : Char) : Covers (units c) [c] where
  length_le := by simp [utf16]
  count_le d hd := by
    have hsmall : d.toNat < 0xD800 := by
      fin_cases hd <;> decide
    have hself := count_utf16 hsmall [c]
    rw [utf16_cons, utf16, List.flatMap_nil, List.append_nil] at hself
    exact hself.ge

theorem isNumberChar_of_hexValue? {c : Char} {n : Nat} (h : hexValue? c = some n) :
    isNumberChar c := by
  simp [isNumberChar, h]

theorem isNumberChar_of_octalValue? {c : Char} {n : Nat} (h : octalValue? c = some n) :
    isNumberChar c := by
  rw [octalValue?] at h
  split at h
  · next hc =>
    have hle : c ≤ '9' := le_trans hc.2 (by decide)
    simp [isNumberChar, hexValue?, hc.1, hle]
  · cases h

theorem exists_readOctal (limit n : Nat) (s : List Char) :
    ∃ e, s = e ++ (readOctal limit n s).2 ∧ ∀ c ∈ e, isNumberChar c := by
  fun_induction readOctal limit n s with
  | case1 limit n c s d hd ih =>
      obtain ⟨e, hs, he⟩ := ih
      refine ⟨c :: e, ?_, ?_⟩
      · rw [List.cons_append, ← hs]
      · rw [List.forall_mem_cons]
        exact ⟨isNumberChar_of_octalValue? hd, he⟩
  | case2 limit n c s hc => exact ⟨[], rfl, by simp⟩
  | case3 => exact ⟨[], rfl, by simp⟩

theorem exists_of_readByte {s r : List Char} {us : List Nat} (h : readByte s = some (us, r)) :
    ∃ e, s = e ++ r ∧ Covers us e := by
  match s with
  | [] | [_] => cases h
  | a :: b :: s =>
      obtain ⟨x, ha, hbind⟩ := Option.bind_eq_some_iff.1 h
      obtain ⟨y, hb, heq⟩ := Option.map_eq_some_iff.1 hbind
      obtain ⟨rfl, rfl⟩ := Prod.mk.inj heq
      refine ⟨[a, b], rfl, .of_isNumberChar (by simp) ?_⟩
      simp [isNumberChar_of_hexValue? ha, isNumberChar_of_hexValue? hb]

theorem length_numberUnits_le (n : Nat) : (numberUnits n).length ≤ 2 := by
  rw [numberUnits]
  split <;> simp

theorem exists_of_readBraced {n? : Option Nat} {s r : List Char} {us : List Nat}
    (h : readBraced n? s = some (us, r)) :
    us.length ≤ 2 ∧ ∃ e, s = e ++ '\x7d' :: r ∧ ∀ c ∈ e, isNumberChar c := by
  fun_induction readBraced n? s with
  | case1 => cases h
  | case2 n? c s d hd ih =>
      obtain ⟨hlength, e, rfl, he⟩ := ih h
      refine ⟨hlength, c :: e, rfl, ?_⟩
      rw [List.forall_mem_cons]
      exact ⟨isNumberChar_of_hexValue? hd, he⟩
  | case3 c s hc n hbrace =>
      obtain ⟨rfl, rfl⟩ := Prod.mk.inj (Option.some.inj h)
      exact ⟨length_numberUnits_le n, [], by rw [hbrace.1]; rfl, by simp⟩
  | case4 => cases h
  | case5 => cases h

theorem exists_of_unit? {a b c d : Char} {n : Nat} (h : unit? a b c d = some n) :
    ∀ e ∈ [a, b, c, d], isNumberChar e := by
  obtain ⟨w, ha, h⟩ := Option.bind_eq_some_iff.1 h
  obtain ⟨x, hb, h⟩ := Option.bind_eq_some_iff.1 h
  obtain ⟨y, hc, h⟩ := Option.bind_eq_some_iff.1 h
  obtain ⟨z, hd, -⟩ := Option.bind_eq_some_iff.1 h
  simp [isNumberChar_of_hexValue? ha, isNumberChar_of_hexValue? hb, isNumberChar_of_hexValue? hc,
    isNumberChar_of_hexValue? hd]

theorem exists_of_readUnicode {s r : List Char} {us : List Nat}
    (h : readUnicode s = some (us, r)) : ∃ e, s = e ++ r ∧ Covers us e := by
  rw [readUnicode.eq_def] at h
  split at h
  · next s =>
    obtain ⟨hlength, e, rfl, he⟩ := exists_of_readBraced h
    refine ⟨'\x7b' :: (e ++ ['\x7d']), by simp, .of_isNumberChar ?_ ?_⟩
    · simp only [List.length_cons, List.length_append, List.length_nil]
      omega
    · simp only [List.forall_mem_cons, List.forall_mem_append]
      exact ⟨rfl, he, rfl, by simp⟩
  · next a b c d s _ =>
    obtain ⟨n, hn, heq⟩ := Option.map_eq_some_iff.1 h
    obtain ⟨rfl, rfl⟩ := Prod.mk.inj heq
    exact ⟨[a, b, c, d], rfl, .of_isNumberChar (by simp) (exists_of_unit? hn)⟩
  · cases h

theorem exists_afterLineEnd {c : Char} (hc : isLineEnd c) (s : List Char) :
    ∃ e, c :: s = e ++ afterLineEnd c s ∧ Covers [] e := by
  have hlineEnds {e : List Char} (he : ∀ d ∈ e, isLineEnd d) : Covers [] e := by
    refine .of_forall ?_ (Nat.zero_le _) he
    intro d hd
    fin_cases hd <;> rfl
  rw [afterLineEnd.eq_def]
  split
  · next s =>
    by_cases hreturn : c = '\r'
    · exact ⟨[c, '\n'], by rw [if_pos hreturn]; rfl, hlineEnds (by simp [hc]; rfl)⟩
    · exact ⟨[c], by rw [if_neg hreturn]; rfl, hlineEnds (by simp [hc])⟩
  · exact ⟨[c], rfl, hlineEnds (by simp [hc])⟩

theorem covers_escaped (c : Char) : Covers (units (escaped c)) [c] := by
  by_cases h : c ∈ ['b', 't', 'n', 'v', 'f', 'r']
  · have hone : (units (escaped c)).length = 1 := by
      fin_cases h <;> rfl
    refine .of_notMem hone.le ?_
    intro d hd hmem
    rw [List.mem_singleton.1 hmem] at hd
    fin_cases hd <;> simp at h
  · have hsame : escaped c = c := by
      simp only [List.mem_cons, List.not_mem_nil, or_false, not_or] at h
      simp [escaped, h]
    rw [hsame]
    exact covers_units c

/-- An escape is written with some characters that its units cover. -/
theorem exists_of_readEscape {s r : List Char} {us : List Nat} (h : readEscape s = some (us, r)) :
    ∃ e, s = e ++ r ∧ Covers us e := by
  cases s with
  | nil => cases h
  | cons c s =>
      rw [readEscape] at h
      split_ifs at h with hx hu hline
      · obtain ⟨e, rfl, he⟩ := exists_of_readByte h
        have hletter : Covers [] [c] := .of_notMem (Nat.zero_le 1) (by simp [hx, separators])
        exact ⟨c :: e, rfl, hletter.append he⟩
      · obtain ⟨e, rfl, he⟩ := exists_of_readUnicode h
        have hletter : Covers [] [c] := .of_notMem (Nat.zero_le 1) (by simp [hu, separators])
        exact ⟨c :: e, rfl, hletter.append he⟩
      · obtain ⟨rfl, rfl⟩ := Prod.mk.inj (Option.some.inj h)
        exact exists_afterLineEnd hline s
      · split at h
        · next n hn =>
          obtain ⟨rfl, rfl⟩ := Prod.mk.inj (Option.some.inj h)
          obtain ⟨e, hs, he⟩ := exists_readOctal (if n < 4 then 2 else 1) n s
          refine ⟨c :: e, ?_, .of_isNumberChar (by simp) ?_⟩
          · rw [List.cons_append, ← hs]
          · rw [List.forall_mem_cons]
            exact ⟨isNumberChar_of_octalValue? hn, he⟩
        · obtain ⟨rfl, rfl⟩ := Prod.mk.inj (Option.some.inj h)
          exact ⟨[c], rfl, covers_escaped c⟩

/-! ## Literals -/

theorem length_le_of_readEscape {s r : List Char} {us : List Nat}
    (h : readEscape s = some (us, r)) : r.length ≤ s.length := by
  obtain ⟨e, rfl, -⟩ := exists_of_readEscape h
  simp

/-- The value of a string literal, and what follows it; its opening quote has been read. -/
def readString : List Char → Option (List Nat × List Char)
  | [] => none
  | c :: s =>
    if c = '\x22' then some ([], s)
    else if c = '\n' ∨ c = '\r' then none
    else if c = '\\' then
      match _h : readEscape s with
      | none => none
      | some (us, r) => (readString r).map fun p => (us ++ p.1, p.2)
    else (readString s).map fun p => (units c ++ p.1, p.2)
termination_by s => s.length
decreasing_by
  · exact Nat.lt_succ_of_le (length_le_of_readEscape _h)
  · exact Nat.lt_succ_self _

/-- Characters that stand in a literal for themselves. -/
def IsPlain (body : List Char) : Prop := ∀ c ∈ body, c ∉ ['\x22', '\\', '\n', '\r']

theorem readString_append {body : List Char} (h : IsPlain body) (r : List Char) :
    readString (body ++ '\x22' :: r) = some (utf16 body, r) := by
  induction body with
  | nil => simp [readString, utf16]
  | cons c body ih =>
      obtain ⟨hc, hbody⟩ := List.forall_mem_cons.1 h
      simp only [List.mem_cons, List.not_mem_nil, or_false, not_or] at hc
      rw [List.cons_append, readString, if_neg hc.1, if_neg (by simp [hc]), if_neg hc.2.1,
        ih hbody]
      rfl

/-- What a literal is made of that can be read: its value covers it, has less units if there is a
backslash, and is the literal itself if there is none. -/
theorem exists_of_readString {s r : List Char} {v : List Nat} (h : readString s = some (v, r)) :
    ∃ body, s = body ++ '\x22' :: r ∧ Covers v body ∧
      ('\\' ∈ body → v.length < (utf16 body).length) ∧
      ('\\' ∉ body → v = utf16 body ∧ '\n' ∉ body ∧ '\r' ∉ body) := by
  fun_induction readString s generalizing v with
  | case1 => cases h
  | case2 s =>
      obtain ⟨rfl, rfl⟩ := Prod.mk.inj (Option.some.inj h)
      exact ⟨[], rfl, .of_notMem (Nat.le_refl 0) (by simp), by simp, by simp [utf16]⟩
  | case3 => cases h
  | case4 => cases h
  | case5 s us r' hescape _ _ ih =>
      obtain ⟨⟨v', r''⟩, hread, heq⟩ := Option.map_eq_some_iff.1 h
      simp only [Prod.mk.injEq] at heq
      obtain ⟨rfl, rfl⟩ := heq
      obtain ⟨e, rfl, he⟩ := exists_of_readEscape hescape
      obtain ⟨body, rfl, hbody, -, -⟩ := ih hread
      have hbackslash : Covers [] ['\\'] := .of_notMem (Nat.zero_le 1) (by simp [separators])
      refine ⟨'\\' :: (e ++ body), by simp, hbackslash.append (he.append hbody), ?_, by simp⟩
      intro _
      calc (us ++ v').length ≤ (utf16 (e ++ body)).length := (he.append hbody).length_le
        _ < (units '\\').length + (utf16 (e ++ body)).length :=
          Nat.lt_add_of_pos_left (length_units_pos '\\')
        _ = (utf16 ('\\' :: (e ++ body))).length := by rw [utf16_cons, List.length_append]
  | case6 c s hquote hline hbackslash ih =>
      obtain ⟨⟨v', r'⟩, hread, heq⟩ := Option.map_eq_some_iff.1 h
      simp only [Prod.mk.injEq] at heq
      obtain ⟨rfl, rfl⟩ := heq
      obtain ⟨body, rfl, hbody, hless, hself⟩ := ih hread
      rw [not_or] at hline
      refine ⟨c :: body, rfl, (covers_units c).append hbody, ?_, ?_⟩
      · intro hmem
        have hrest := hless ((List.mem_cons.1 hmem).resolve_left (Ne.symm hbackslash))
        rw [utf16_cons, List.length_append, List.length_append]
        exact Nat.add_lt_add_left hrest _
      · intro hmem
        obtain ⟨rfl, hfeed, hreturn⟩ := hself fun hbody => hmem (List.mem_cons_of_mem c hbody)
        simp [utf16_cons, hfeed, hreturn, Ne.symm hline.1, Ne.symm hline.2]

end ServiceDoc.Script
