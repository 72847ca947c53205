import ServiceDoc.Proofs.Xml.Utf8
import ServiceDoc.Proofs.Xml.WrittenElement
import ServiceDoc.Xml.Document
/-!
# Reading written elements back

The main statement is `ofText_text`: the text of an element that can be written is a document, and
its root is the node of that element. It is an induction over the element; what carries it is that
reading an element inside another one adds its node to the nodes before it and goes on behind it.
-/

namespace ServiceDoc.Xml

open Markup

/-! ## Tokens -/

/-- Behind `<` a name begins a start tag, as it is none of the three marks. -/
theorem scanMarkup_start {c : Char} (h : Symbol.ofChar c = .char c .start)
    {start r r' : List Symbol}
    {t : StartTag} (ht : scanStartTag (.char c .start :: r) = .ok (t, r')) :
    scanMarkup start (.char c .start :: r) = .ok (.startTag t, r') := by
  have hbang : c ≠ '!' := by
    rintro rfl
    cases h
  have hquestion : c ≠ '?' := by
    rintro rfl
    cases h
  have hslash : c ≠ '/' := by
    rintro rfl
    cases h
  simp [scanMarkup, hbang, hquestion, hslash, ht]

theorem scanToken_startTag {name : List Char} {as : List (String × String)}
    (hn : isPlainName name) (ha : AreWritable as) (closed : Bool) (r : List Symbol) :
    scanToken (symbols ('<' :: (name ++ (attributesText as ++ tagEnd closed))) ++ r) =
      .ok (.startTag ⟨name, rawAttributes (symbols (tagEnd closed) ++ r) as, closed⟩, r) := by
  have hscan := scanStartTag_symbols hn ha closed r
  obtain ⟨c, cs, rfl, hc, -⟩ := exists_cons_of_isPlainName hn
  simp only [symbols_cons, symbols_append, List.cons_append, List.append_assoc, hc] at hscan ⊢
  rw [show Symbol.ofChar '<' = .char '<' .other from rfl, scanToken, scanMarkup_start hc hscan]

theorem scanToken_endTag {name : List Char} (hn : isPlainName name) (r : List Symbol) :
    scanToken (symbols ('<' :: '/' :: (name ++ ['>'])) ++ r) =
      .ok (.endTag name (symbols (name ++ ['>']) ++ r), r) := by
  have hscan := scanEndTag_symbols hn r
  simp only [symbols_cons, symbols_append, List.cons_append, List.append_assoc, symbols_nil,
    List.nil_append]
  rw [show Symbol.ofChar '<' = .char '<' .other from rfl,
    show Symbol.ofChar '/' = .char '/' .other from rfl,
    show Symbol.ofChar '>' = .char '>' .other from rfl, scanToken]
  simp only [scanMarkup, hscan]

/-! ## Content -/

section Content

variable {dtd : Dtd} {inEntity : Bool} {avail : List Entity} {scope : Scope} {frames : List Frame}
  {nodes : List Node} {s r : List Symbol}

theorem ne_of_scanToken_eq_startTag {tag : StartTag} (ht : scanToken s = .ok (.startTag tag, r)) :
    s ≠ [] ∧ ∀ role, s ≠ [.char '\r' role] := by
  constructor
  · rintro rfl
    cases ht
  · rintro role rfl
    simp [scanToken, scanText] at ht

theorem readContent_startTag {tag : StartTag} {o : Opening}
    (ht : scanToken s = .ok (.startTag tag, r)) (ho : tag.opening dtd scope s = .ok o) :
    readContent dtd inEntity avail scope frames nodes s =
      if tag.closed then
        if !inEntity && frames.isEmpty then .ok (.element o.name o.attributes [] :: nodes, r)
        else
          readContent dtd inEntity avail scope frames (.element o.name o.attributes [] :: nodes) r
      else
        readContent dtd inEntity avail o.scope
          (⟨tag.name, o.name, o.attributes, scope, nodes⟩ :: frames) [] r := by
  obtain ⟨hnil, hreturn⟩ := ne_of_scanToken_eq_startTag ht
  rw [readContent]
  · split <;> rename_i heq <;> rw [ht] at heq <;> cases heq
    rw [ho]
  · exact hnil
  · exact hreturn

theorem readContent_endTag {name : List Char} {nameAt : List Symbol} {f : Frame}
    (ht : scanToken s = .ok (.endTag name nameAt, r)) (hf : name = f.tag) :
    readContent dtd inEntity avail scope (f :: frames) nodes s =
      if !inEntity && frames.isEmpty then .ok (f.close nodes :: f.before, r)
      else readContent dtd inEntity avail f.outer frames (f.close nodes :: f.before) r := by
  rw [readContent]
  · split <;> rename_i heq <;> rw [ht] at heq <;> cases heq
    simp only [hf, if_true]
  · rintro rfl
    cases ht
  · rintro role rfl
    simp [scanToken, scanText] at ht

end Content

/-- Inside of an open element the text of `m` is read as the node of `m`, and reading goes on behind
it. -/
def ReadsBack (m : Markup) : Prop :=
  ∀ (avail : List Entity) (f : Frame) (frames : List Frame) (nodes : List Node) (r : List Symbol),
    readContent {} false avail Scope.preset (f :: frames) nodes (symbols m.text ++ r) =
      readContent {} false avail Scope.preset (f :: frames) (m.node :: nodes) r

theorem readContent_textBelow {ms : List Markup} (h : ∀ m ∈ ms, ReadsBack m) (avail : List Entity)
    (f : Frame) (frames : List Frame) (nodes : List Node) (r : List Symbol) :
    readContent {} false avail Scope.preset (f :: frames) nodes (symbols (textBelow ms) ++ r) =
      readContent {} false avail Scope.preset (f :: frames)
        ((nodesBelow ms).reverse ++ nodes) r := by
  induction ms generalizing nodes with
  | nil => rfl
  | cons m ms ih =>
      rw [textBelow, symbols_append, List.append_assoc, h m List.mem_cons_self,
        ih fun m' hm' => h m' (List.mem_cons_of_mem m hm'), nodesBelow, List.reverse_cons,
        List.append_assoc, List.singleton_append]

/-- The frame of a written element, opened behind some nodes. -/
def writtenFrame (name : String) (as : List (String × String)) (before : List Node) : Frame :=
  ⟨name.toList, ⟨none, name⟩, attributeNodes as, Scope.preset, before⟩

/-- An element of a single tag, in a document or in another element. -/
theorem readContent_single {name : String} {as : List (String × String)}
    (hn : isPlainName name.toList) (ha : AreWritable as) (avail : List Entity)
    (frames : List Frame) (nodes : List Node) (r : List Symbol) :
    readContent {} false avail Scope.preset frames nodes (symbols (text (.single name as)) ++ r) =
      if frames.isEmpty then .ok (node (.single name as) :: nodes, r)
      else readContent {} false avail Scope.preset frames (node (.single name as) :: nodes) r := by
  have ht := scanToken_startTag hn ha true r
  rw [text, show ['/', '>'] = tagEnd true from rfl,
    readContent_startTag ht (opening_symbols _ _ _ hn ha)]
  rfl

/-- An element of two tags: its children are read first, and its end tag closes it. -/
theorem readContent_pair {name : String} {as : List (String × String)} {ms : List Markup}
    (hn : isPlainName name.toList) (ha : AreWritable as) (hms : ∀ m ∈ ms, ReadsBack m)
    (avail : List Entity) (frames : List Frame) (nodes : List Node) (r : List Symbol) :
    readContent {} false avail Scope.preset frames nodes (symbols (text (.pair name as ms)) ++ r) =
      if frames.isEmpty then .ok (node (.pair name as ms) :: nodes, r)
      else readContent {} false avail Scope.preset frames (node (.pair name as ms) :: nodes) r := by
  let close := symbols ('<' :: '/' :: (name.toList ++ ['>'])) ++ r
  have htext : symbols (text (.pair name as ms)) ++ r =
      symbols ('<' :: (name.toList ++ (attributesText as ++ tagEnd false))) ++
        (symbols (textBelow ms) ++ close) := by
    simp [text, tagEnd, close]
  have ht := scanToken_startTag hn ha false (symbols (textBelow ms) ++ close)
  rw [htext, readContent_startTag ht (opening_symbols _ _ _ hn ha), if_neg Bool.false_ne_true]
  change readContent {} false avail Scope.preset (writtenFrame name as nodes :: frames) []
    (symbols (textBelow ms) ++ close) = _
  rw [readContent_textBelow hms, readContent_endTag (scanToken_endTag hn r) rfl]
  simp [writtenFrame, Frame.close, node]

theorem readsBack {m : Markup} (h : IsWritable m) : ReadsBack m := by
  induction h with
  | single hn ha =>
      intro avail f frames nodes r
      rw [readContent_single hn ha]
      rfl
  | pair hn ha _ ih =>
      intro avail f frames nodes r
      rw [readContent_pair hn ha ih]
      rfl

/-- The root of a document is read up to its end. -/
theorem readContent_root {m : Markup} (h : IsWritable m) (avail : List Entity) (r : List Symbol) :
    readContent {} false avail Scope.preset [] [] (symbols m.text ++ r) = .ok ([m.node], r) := by
  cases h with
  | single hn ha =>
      rw [readContent_single hn ha]
      rfl
  | pair hn ha hc =>
      rw [readContent_pair hn ha fun m hm => readsBack (hc m hm)]
      rfl

/-! ## Documents -/

/-- A written element begins with `<` and a letter. -/
theorem symbols_text_cons {m : Markup} (h : IsWritable m) :
    ∃ c t, m.text = '<' :: c :: t ∧ Symbol.ofChar c = .char c .start := by
  cases h with
  | single hn ha =>
      obtain ⟨c, cs, hcons, hc, -⟩ := exists_cons_of_isPlainName hn
      rw [text, hcons]
      exact ⟨c, _, rfl, hc⟩
  | pair hn ha hc =>
      obtain ⟨c, cs, hcons, hc, -⟩ := exists_cons_of_isPlainName hn
      rw [text, hcons]
      exact ⟨c, _, rfl, hc⟩

theorem scanLexeme_start {c : Char} (h : Symbol.ofChar c = .char c .start) (t : List Symbol) :
    scanLexeme (.char '<' .other :: .char c .start :: t) =
      .ok (.rootTag, .char '<' .other :: .char c .start :: t) := by
  have hbang : c ≠ '!' := by
    rintro rfl
    cases h
  have hquestion : c ≠ '?' := by
    rintro rfl
    cases h
  simp [scanLexeme, hbang, hquestion, beginsTag]

theorem lexemes_start {c : Char} (h : Symbol.ofChar c = .char c .start) (t : List Symbol) :
    lexemes [] (.char '<' .other :: .char c .start :: t) =
      ([], .root (.char '<' .other :: .char c .start :: t)) := by
  have hs := scanLexeme_start h t
  rw [lexemes]
  · split <;> rename_i heq <;> rw [hs] at heq <;> cases heq
    rfl
  · intro hnil
    cases hnil

theorem readProlog_start {c : Char} (h : Symbol.ofChar c = .char c .start) (t : List Symbol) :
    readProlog false (.char '<' .other :: .char c .start :: t) =
      .ok ({}, .char '<' .other :: .char c .start :: t) := by
  rw [readProlog, lexemes_start h]
  rfl

theorem readEpilog_nil : readEpilog [] = .ok () := by
  rw [readEpilog, lexemes]
  rfl

namespace Document

theorem readHead_start {c : Char} (h : Symbol.ofChar c = .char c .start) (t : List Symbol) :
    readHead (.char '<' .other :: .char c .start :: t) =
      .ok (none, .char '<' .other :: .char c .start :: t) := by
  have hquestion : c ≠ '?' := by
    rintro rfl
    cases h
  simp [readHead, hquestion]

theorem readBody_text {m : Markup} (h : IsWritable m) :
    readBody false (symbols m.text) = .ok m.node := by
  obtain ⟨c, t, htext, hc⟩ := symbols_text_cons h
  have hcons : symbols m.text = .char '<' .other :: .char c .start :: symbols t := by
    rw [htext, symbols_cons, symbols_cons, hc]
    rfl
  have hroot := readContent_root h [] []
  rw [List.append_nil] at hroot
  rw [readBody, hcons, readProlog_start hc, ← hcons]
  simp only [hroot, readEpilog_nil, List.headD_cons]

theorem readHead_text {m : Markup} (h : IsWritable m) :
    readHead (symbols m.text) = .ok (none, symbols m.text) := by
  obtain ⟨c, t, htext, hc⟩ := symbols_text_cons h
  have hcons : symbols m.text = .char '<' .other :: .char c .start :: symbols t := by
    rw [htext, symbols_cons, symbols_cons, hc]
    rfl
  rw [hcons, readHead_start hc]

/-- The text of an element is a document with that element as its root. -/
theorem ofText_text {m : Markup} (h : IsWritable m) :
    ofText (String.ofList m.text) = .ok m.node := by
  obtain ⟨c, t, htext, hc⟩ := symbols_text_cons h
  have hwide : looksWide m.text = false := by
    have hnul : c ≠ '\x00' := by
      rintro rfl
      cases hc
    simp [htext, looksWide, hnul]
  have hsymbols : ofSymbols (symbols m.text) (symbols m.text) = .ok m.node := by
    rw [ofSymbols, readHead_text h]
    simp [readBody_text h]
  rw [ofText, String.toList_ofList, hwide, htext]
  rw [htext] at hsymbols
  exact hsymbols

/-- The first two bytes of a written element show UTF-8. -/
theorem detect?_text {m : Markup} (h : IsWritable m) :
    Encoding.detect? (Text.utf8 m.text) = some ⟨.utf8, 0⟩ := by
  obtain ⟨c, t, htext, hc⟩ := symbols_text_cons h
  have hnul : c ≠ '\x00' := by
    rintro rfl
    cases hc
  obtain ⟨b, bs, hbytes, hb⟩ := Encoding.exists_cons_utf8EncodeChar hnul
  rw [htext, Text.utf8, List.flatMap_cons, List.flatMap_cons, hbytes]
  simp [Encoding.detect?, String.utf8EncodeChar, hb]

/-- The text of an element in UTF-8 is a document with that element as its root. -/
theorem ofBytes_text {m : Markup} (h : IsWritable m) : ofBytes (Text.utf8 m.text) = .ok m.node := by
  rw [ofBytes, detect?_text h]
  simp only [ofDetected, List.drop_zero, Encoding.decode_utf8, readHead_text h, if_true]
  simp [readBody_text h]

end Document

end ServiceDoc.Xml
