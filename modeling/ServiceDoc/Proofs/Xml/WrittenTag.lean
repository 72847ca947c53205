import ServiceDoc.Proofs.Xml.Markup
import ServiceDoc.Xml.Tag
/-!
# Scanning written tags

The scanners of names, values, attributes and tags on what the writer of elements leaves: each one
takes exactly the part that was written and returns what follows it. What follows is arbitrary from
the first character on that ends the part, so the lemmas can be chained along a document.
-/

namespace ServiceDoc.Xml

/-- The symbols of a text in a document whose encoding is settled. -/
def symbols (cs : List Char) : List Symbol := cs.map Symbol.ofChar

@[simp] theorem symbols_nil : symbols [] = [] := rfl

@[simp] theorem symbols_cons (c : Char) (cs : List Char) :
    symbols (c :: cs) = Symbol.ofChar c :: symbols cs := rfl

@[simp] theorem symbols_append (cs ds : List Char) :
    symbols (cs ++ ds) = symbols cs ++ symbols ds := List.map_append

theorem ofChar_of_isLegal {c : Char} (h : isLegal c) : Symbol.ofChar c = .char c (.of c) := by
  rw [Symbol.ofChar, if_pos h]

/-! ## Names -/

theorem ofChar_of_isNameChar {c : Char} (h : isNameChar c) :
    ∃ role, role ≠ .other ∧ Symbol.ofChar c = .char c role := by
  simp only [isNameChar, Bool.and_eq_true, bne_iff_ne] at h
  exact ⟨.of c, h.2, ofChar_of_isLegal h.1⟩

theorem isPlainName_cons {c : Char} {cs : List Char} (h : isPlainName (c :: cs)) :
    Symbol.ofChar c = .char c .start ∧ ∀ d ∈ cs, isNameChar d := by
  simp only [isPlainName, Bool.and_eq_true, beq_iff_eq, List.all_eq_true] at h
  exact ⟨h.1.2 ▸ ofChar_of_isLegal h.1.1, h.2⟩

theorem exists_cons_of_isPlainName {n : List Char} (h : isPlainName n) :
    ∃ c cs, n = c :: cs ∧ Symbol.ofChar c = .char c .start ∧ ∀ d ∈ cs, isNameChar d := by
  cases n with
  | nil => cases h
  | cons c cs => exact ⟨c, cs, rfl, isPlainName_cons h⟩

/-- A name ends before the first character that may not stand in one. -/
theorem nameRest_symbols (acc : List Char) {cs : List Char} (h : ∀ c ∈ cs, isNameChar c) (d : Char)
    (r : List Symbol) :
    nameRest acc (symbols cs ++ .char d .other :: r) =
      (acc.reverse ++ cs, .char d .other :: r) := by
  induction cs generalizing acc with
  | nil => simp [nameRest]
  | cons c cs ih =>
      obtain ⟨role, hrole, hc⟩ := ofChar_of_isNameChar (h c List.mem_cons_self)
      rw [symbols_cons, List.cons_append, hc, nameRest, if_neg hrole,
        ih _ fun c' hc' => h c' (List.mem_cons_of_mem c hc')]
      simp

theorem scanName_symbols {n : List Char} (h : isPlainName n) (d : Char) (r : List Symbol) :
    scanName (symbols n ++ .char d .other :: r) = .ok (n, .char d .other :: r) := by
  obtain ⟨c, cs, rfl, hc, hcs⟩ := exists_cons_of_isPlainName h
  rw [symbols_cons, List.cons_append, hc, scanName, nameRest_symbols [c] hcs]
  rfl

theorem scanQName_symbols {n : List Char} (h : isPlainName n) {d : Char} (hd : d ≠ ':')
    (r : List Symbol) :
    scanQName (symbols n ++ .char d .other :: r) = .ok (n, .char d .other :: r) := by
  rw [scanQName, scanName_symbols h]
  simp [hd]

/-- The name in an end tag may have colons, but a plain one ends where a plain name does. -/
theorem endNameRest_symbols (acc : List Char) {cs : List Char} (h : ∀ c ∈ cs, isNameChar c)
    {d : Char} (hd : d ≠ ':') (r : List Symbol) :
    endNameRest acc (symbols cs ++ .char d .other :: r) =
      (acc.reverse ++ cs, .char d .other :: r) := by
  induction cs generalizing acc with
  | nil => simp [endNameRest, hd]
  | cons c cs ih =>
      obtain ⟨role, hrole, hc⟩ := ofChar_of_isNameChar (h c List.mem_cons_self)
      rw [symbols_cons, List.cons_append, hc, endNameRest, if_neg fun h' => hrole h'.1,
        ih _ fun c' hc' => h c' (List.mem_cons_of_mem c hc')]
      simp

theorem scanEndTag_symbols {n : List Char} (h : isPlainName n) (r : List Symbol) :
    scanEndTag (symbols n ++ .char '>' .other :: r) = .ok (n, r) := by
  obtain ⟨c, cs, rfl, hc, hcs⟩ := exists_cons_of_isPlainName h
  rw [symbols_cons, List.cons_append, hc, scanEndTag, endNameRest_symbols [c] hcs (by decide)]
  rfl

/-! ## Values -/

/-- A written character is passed over inside quotes, whatever it stands for. -/
theorem scanValue_escapeChar {c : Char} (h : isLegal c) (acc r : List Symbol) :
    scanValue '\x22' acc (symbols (escapeChar c) ++ r) =
      scanValue '\x22' ((symbols (escapeChar c)).reverse ++ acc) r := by
  by_cases hc : c ∈ referenced
  · simp only [referenced, List.mem_cons, List.not_mem_nil, or_false] at hc
    rcases hc with rfl | rfl | rfl | rfl | rfl | rfl <;> rfl
  · rw [escapeChar_of_notMem hc, symbols_cons, symbols_nil, ofChar_of_isLegal h,
      List.singleton_append]
    simp only [referenced, List.mem_cons, List.not_mem_nil, or_false, not_or] at hc
    obtain ⟨hamp, hlt, hquote, -⟩ := hc
    rw [scanValue, if_neg hquote, if_neg hlt, if_neg hamp]
    rfl

theorem scanValue_escape {cs : List Char} (h : ∀ c ∈ cs, isLegal c) (acc r : List Symbol) :
    scanValue '\x22' acc (symbols (cs.flatMap escapeChar) ++ .char '\x22' .other :: r) =
      .ok (acc.reverse ++ symbols (cs.flatMap escapeChar), .char '\x22' .other :: r) := by
  induction cs generalizing acc with
  | nil => simp [scanValue]
  | cons c cs ih =>
      rw [List.flatMap_cons, symbols_append, List.append_assoc,
        scanValue_escapeChar (h c List.mem_cons_self),
        ih fun c' hc' => h c' (List.mem_cons_of_mem c hc')]
      simp

/-! ## Attributes -/

/-- The attributes of a tag as they are scanned, where `tail` follows the last of them. -/
def rawAttributes (tail : List Symbol) : List (String × String) → List RawAttribute
  | [] => []
  | a :: as =>
    let r := symbols (attributesText as) ++ tail
    ⟨a.1.toList, symbols (attributeBody a) ++ r, symbols (escape a.2), .char '\x22' .other :: r⟩ ::
      rawAttributes tail as

theorem symbols_attributeBody (a : String × String) :
    symbols (attributeBody a) = symbols a.1.toList ++ .char '=' .other :: .char '\x22' .other ::
      (symbols (escape a.2) ++ [.char '\x22' .other]) := by
  simp only [attributeBody, symbols_append, symbols_cons, symbols_nil]
  rfl

theorem symbols_attributesText_cons (a : String × String) (as : List (String × String)) :
    symbols (attributesText (a :: as)) =
      .char ' ' .other :: (symbols (attributeBody a) ++ symbols (attributesText as)) := by
  rw [attributesText, List.flatMap_cons, List.cons_append, symbols_cons, symbols_append]
  rfl

/-- An attribute with its value, whatever follows. -/
theorem scanAttribute_symbols {a : String × String} (hn : isPlainName a.1.toList)
    (hv : ∀ c ∈ a.2.toList, isLegal c) (r : List Symbol) :
    scanAttribute (symbols (attributeBody a) ++ r) =
      .ok (⟨a.1.toList, symbols (attributeBody a) ++ r, symbols (escape a.2),
        .char '\x22' .other :: r⟩, r) := by
  have hbody : symbols (attributeBody a) ++ r = symbols a.1.toList ++ .char '=' .other ::
      .char '\x22' .other :: (symbols (escape a.2) ++ .char '\x22' .other :: r) := by
    simp [symbols_attributeBody]
  have hequals : scanEquals (.char '=' .other :: .char '\x22' .other ::
      (symbols (escape a.2) ++ .char '\x22' .other :: r)) =
        .ok (.char '\x22' .other :: (symbols (escape a.2) ++ .char '\x22' .other :: r)) := rfl
  rw [hbody, scanAttribute, scanQName_symbols hn (by decide)]
  simp only [hequals, true_or, if_true]
  rw [escape, scanValue_escape hv]
  rfl

/-- The end of a start tag, of either kind. -/
def tagEnd (closed : Bool) : List Char := if closed then ['/', '>'] else ['>']

theorem scanTagEnd_tagEnd (closed : Bool) (r : List Symbol) :
    scanTagEnd (symbols (tagEnd closed) ++ r) = some (.ok (closed, r)) := by
  cases closed <;> rfl

/-- An attribute or a name begins with a letter, so it is neither a blank nor the end of a tag. -/
theorem not_isBlank_start {c : Char} (h : Symbol.ofChar c = .char c .start) :
    (Symbol.char c .start).isBlank = false := by
  rw [Bool.eq_false_iff]
  intro hb
  simp only [Symbol.isBlank, Bool.or_eq_true, decide_eq_true_eq] at hb
  rcases hb with ((rfl | rfl) | rfl) | rfl <;> cases h

theorem scanTagEnd_start {c : Char} (h : Symbol.ofChar c = .char c .start) (r : List Symbol) :
    scanTagEnd (.char c .start :: r) = none := by
  have hgt : c ≠ '>' := by
    rintro rfl
    cases h
  have hslash : c ≠ '/' := by
    rintro rfl
    cases h
  simp [scanTagEnd, hgt, hslash]

theorem skipBlanks_start {c : Char} (h : Symbol.ofChar c = .char c .start) (r : List Symbol) :
    skipBlanks (.char c .start :: r) = .char c .start :: r := by
  rw [skipBlanks, List.dropWhile_cons, not_isBlank_start h]
  rfl

theorem scanTagEnd_attributeBody {a : String × String} (hn : isPlainName a.1.toList)
    (r : List Symbol) : scanTagEnd (symbols (attributeBody a) ++ r) = none := by
  obtain ⟨c, cs, hcons, hc, -⟩ := exists_cons_of_isPlainName hn
  rw [attributeBody, hcons, List.cons_append, symbols_cons, hc, List.cons_append]
  exact scanTagEnd_start hc _

theorem skipBlanks_attributeBody {a : String × String} (hn : isPlainName a.1.toList)
    (r : List Symbol) :
    skipBlanks (symbols (attributeBody a) ++ r) = symbols (attributeBody a) ++ r := by
  obtain ⟨c, cs, hcons, hc, -⟩ := exists_cons_of_isPlainName hn
  rw [attributeBody, hcons, List.cons_append, symbols_cons, hc, List.cons_append]
  exact skipBlanks_start hc _

theorem scanAttributes_last {acc : List RawAttribute} {s r r' : List Symbol} {a : RawAttribute}
    {closed : Bool} (hs : scanTagEnd s = none) (ha : scanAttribute s = .ok (a, r))
    (he : scanTagEnd r = some (.ok (closed, r'))) :
    scanAttributes acc s = .ok (((a :: acc).reverse, closed), r') := by
  rw [scanAttributes, hs]
  simp only
  split
  · next hf =>
    rw [ha] at hf
    cases hf
  · next heq =>
    rw [ha] at heq
    cases heq
    rw [he]

theorem scanAttributes_next {acc : List RawAttribute} {s t : List Symbol} {c : Symbol}
    {a : RawAttribute} (hs : scanTagEnd s = none) (ha : scanAttribute s = .ok (a, c :: t))
    (he : scanTagEnd (c :: t) = none) (hc : c.isBlank) :
    scanAttributes acc s = scanAttributes (a :: acc) (skipBlanks t) := by
  rw [scanAttributes, hs]
  simp only
  split
  · next hf =>
    rw [ha] at hf
    cases hf
  · next heq =>
    rw [ha] at heq
    cases heq
    rw [he]
    simp only [hc, if_true]

/-- All attributes of a tag up to its end, read from the first of them on. -/
theorem scanAttributes_symbols (closed : Bool) (r : List Symbol) (a : String × String)
    (as : List (String × String)) (acc : List RawAttribute)
    (hn : ∀ b ∈ a :: as, isPlainName b.1.toList)
    (hv : ∀ b ∈ a :: as, ∀ c ∈ b.2.toList, isLegal c) :
    let tail := symbols (tagEnd closed) ++ r
    scanAttributes acc (symbols (attributeBody a) ++ (symbols (attributesText as) ++ tail)) =
      .ok ((acc.reverse ++ rawAttributes tail (a :: as), closed), r) := by
  intro tail
  induction as generalizing a acc with
  | nil =>
      have hname := hn a List.mem_cons_self
      have hscan := scanAttribute_symbols hname (hv a List.mem_cons_self) tail
      rw [attributesText, List.flatMap_nil, symbols_nil, List.nil_append,
        scanAttributes_last (scanTagEnd_attributeBody hname tail) hscan
          (scanTagEnd_tagEnd closed r)]
      simp [rawAttributes, attributesText]
  | cons b as ih =>
      have hname := hn a List.mem_cons_self
      let t := symbols (attributeBody b) ++ (symbols (attributesText as) ++ tail)
      have hcons : symbols (attributesText (b :: as)) ++ tail = .char ' ' .other :: t := by
        rw [symbols_attributesText_cons, List.cons_append, List.append_assoc]
      have hscan := scanAttribute_symbols hname (hv a List.mem_cons_self) (.char ' ' .other :: t)
      rw [hcons, scanAttributes_next (scanTagEnd_attributeBody hname _) hscan rfl rfl,
        skipBlanks_attributeBody (hn b (List.mem_cons_of_mem a List.mem_cons_self)),
        ih b _ (fun b' hb' => hn b' (List.mem_cons_of_mem a hb'))
          (fun b' hb' => hv b' (List.mem_cons_of_mem a hb'))]
      simp [rawAttributes, hcons, t]

/-! ## Start tags -/

/-- A start tag from its name on, whatever follows. -/
theorem scanStartTag_symbols {n : List Char} {as : List (String × String)} (hn : isPlainName n)
    (ha : AreWritable as) (closed : Bool) (r : List Symbol) :
    scanStartTag (symbols n ++ (symbols (attributesText as) ++ (symbols (tagEnd closed) ++ r))) =
      .ok (⟨n, rawAttributes (symbols (tagEnd closed) ++ r) as, closed⟩, r) := by
  cases as with
  | nil =>
      obtain ⟨d, t, hd, ht⟩ : ∃ d t, d ≠ ':' ∧
          symbols (tagEnd closed) ++ r = .char d .other :: t := by
        cases closed with
        | false => exact ⟨'>', r, by decide, rfl⟩
        | true => exact ⟨'/', .char '>' .other :: r, by decide, rfl⟩
      have hend := scanTagEnd_tagEnd closed r
      rw [attributesText, List.flatMap_nil, symbols_nil, List.nil_append, ht] at *
      rw [scanStartTag, scanQName_symbols hn hd]
      simp only [hend, rawAttributes]
  | cons a as =>
      have hscan :=
        scanAttributes_symbols closed r a as [] (fun b hb => (ha.names b hb).1) ha.values
      rw [symbols_attributesText_cons, List.cons_append, List.append_assoc, scanStartTag,
        scanQName_symbols hn (by decide)]
      simp only [scanTagEnd, Symbol.isBlank, decide_true, Bool.true_or, if_true,
        skipBlanks_attributeBody (ha.names a List.mem_cons_self).1, hscan]
      rfl

end ServiceDoc.Xml
