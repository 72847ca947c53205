import ServiceDoc.Proofs.Xml.Cause
import ServiceDoc.Proofs.Xml.Utf8
/-!
# Documents with errors on one line

What is wrong with a document is told on one line (`isOneLine_message_of_ofBytes`), also where it is
an entity that is named, because a line feed stands in no name. That is a property of the symbols
which an encoding gives (`Symbol.KeepsLines`), and the readers pass it on, as what they leave is an
end of what they were given.
-/

namespace ServiceDoc.Xml

/-! ## Symbols -/

/-- A line feed that is read stands in no name. -/
@[grind]
def Symbol.KeepsLines : Symbol → Prop
  | .char c role => c = '\n' → role = .other
  | _ => True

theorem of_lineFeed : NameRole.of '\n' = .other := by decide

theorem keepsLines_ofChar (c : Char) : (Symbol.ofChar c).KeepsLines := by
  rw [Symbol.ofChar]
  split
  · rintro rfl
    exact of_lineFeed
  · trivial

theorem keepsLines_latinSymbol (c : Char) : (Encoding.latinSymbol c).KeepsLines := by
  rw [Encoding.latinSymbol]
  split
  · rintro rfl
    decide
  · trivial

theorem keepsLines_charSymbol (n : Nat) : (Encoding.charSymbol n).KeepsLines := by
  rw [Encoding.charSymbol]
  split
  · exact keepsLines_ofChar _
  · trivial

grind_pattern keepsLines_ofChar => Symbol.ofChar c
grind_pattern keepsLines_latinSymbol => Encoding.latinSymbol c
grind_pattern keepsLines_charSymbol => Encoding.charSymbol n

theorem keepsLines_decodeUtf8 (bytes : List UInt8) :
    ∀ x ∈ Encoding.decodeUtf8 [] bytes, x.KeepsLines := by
  intro x hx
  rcases Encoding.mem_decodeUtf8 hx with h | rfl | rfl | ⟨n, rfl⟩
  · cases h
  · trivial
  · trivial
  · exact keepsLines_charSymbol n

theorem keepsLines_decodeUtf16 (o : ByteOrder) (acc : List Symbol) (bytes : List UInt8)
    (hacc : ∀ x ∈ acc, x.KeepsLines) : ∀ x ∈ Encoding.decodeUtf16 o acc bytes, x.KeepsLines := by
  fun_induction Encoding.decodeUtf16 o acc bytes <;> grind

theorem keepsLines_decode (e : Encoding) (bytes : List UInt8) :
    ∀ x ∈ e.decode bytes, x.KeepsLines := by
  cases e with
  | utf8 => exact keepsLines_decodeUtf8 bytes
  | utf16 o => exact keepsLines_decodeUtf16 o [] bytes nofun
  | latin1 | ascii | page p => grind [Encoding.decode]

theorem ne_lineFeed_of_keepsLines {c : Char} {role : NameRole}
    (h : (Symbol.char c role).KeepsLines) (hrole : role ≠ .other) : '\n' ≠ c := by
  rintro rfl
  exact hrole (h rfl)

theorem notMem_nameRest {acc : List Char} {s : List Symbol} (hacc : '\n' ∉ acc)
    (hs : ∀ x ∈ s, x.KeepsLines) : '\n' ∉ (nameRest acc s).1 := by
  fun_induction nameRest acc s with
  | case1 acc c r => simpa using hacc
  | case2 acc c role r hrole ih =>
      rw [List.forall_mem_cons] at hs
      exact ih (List.not_mem_cons_of_ne_of_not_mem (ne_lineFeed_of_keepsLines hs.1 hrole) hacc) hs.2
  | case3 acc s => simpa using hacc

theorem notMem_scanName {s r : List Symbol} {n : List Char} (hs : ∀ x ∈ s, x.KeepsLines)
    (h : scanName s = .ok (n, r)) : '\n' ∉ n := by
  unfold scanName at h
  split at h
  · next c r' =>
    rw [List.forall_mem_cons] at hs
    have hc : '\n' ∉ [c] := by
      simpa using ne_lineFeed_of_keepsLines hs.1 (by decide)
    rw [show n = (nameRest [c] r').1 by rw [Except.ok.inj h]]
    exact notMem_nameRest hc hs.2
  · cases h

theorem notMem_scanReference {s r : List Symbol} {n : List Char} (hs : ∀ x ∈ s, x.KeepsLines)
    (h : scanReference s = .ok (.entity n, r)) : '\n' ∉ n := by
  unfold scanReference at h
  grind [notMem_scanName, scanCharNumber]

theorem scanSection_ne_reference {start s r : List Symbol} {x : Reference} :
    scanSection start s ≠ .ok (.reference x, r) := by
  intro h
  unfold scanSection at h
  grind

theorem scanMarkup_ne_reference {start s r : List Symbol} {x : Reference} :
    scanMarkup start s ≠ .ok (.reference x, r) := by
  intro h
  unfold scanMarkup at h
  grind [scanSection_ne_reference]

/-- A reference begins with an ampersand. -/
theorem exists_scanReference_of_scanToken {s r : List Symbol} {x : Reference}
    (h : scanToken s = .ok (.reference x, r)) :
    ∃ role s', s = .char '&' role :: s' ∧ scanReference s' = .ok (x, r) := by
  unfold scanToken at h
  grind [scanMarkup_ne_reference]

theorem notMem_scanToken {s r : List Symbol} {n : List Char} (hs : ∀ x ∈ s, x.KeepsLines)
    (h : scanToken s = .ok (.reference (.entity n), r)) : '\n' ∉ n := by
  obtain ⟨role, s', rfl, href⟩ := exists_scanReference_of_scanToken h
  exact notMem_scanReference (List.forall_mem_cons.1 hs).2 href

theorem keepsLines_of_scanToken {s r : List Symbol} {t : Token} (hs : ∀ x ∈ s, x.KeepsLines)
    (h : scanToken s = .ok (t, r)) : ∀ x ∈ r, x.KeepsLines :=
  fun x hx => hs x ((suffix_scanToken h).subset hx)

theorem isOneLine_endOfContent {inEntity : Bool} {frames : List Frame} {nodes : List Node}
    {s : List Symbol} {f : Fault} (h : endOfContent inEntity frames nodes s = .error f) :
    f.cause.IsOneLine := by
  unfold endOfContent at h
  grind

theorem isOneLine_readContent {dtd : Dtd} {inEntity : Bool} {avail : List Entity} {scope : Scope}
    {frames : List Frame} {nodes : List Node} {s : List Symbol} {f : Fault}
    (hs : ∀ x ∈ s, x.KeepsLines)
    (h : readContent dtd inEntity avail scope frames nodes s = .error f) : f.cause.IsOneLine := by
  fun_induction readContent dtd inEntity avail scope frames nodes s generalizing f <;>
    grind [isOneLine_endOfContent, keepsLines_of_scanToken, notMem_scanToken]

/-! ## Documents -/

theorem isOneLine_readBody {standalone : Bool} {s : List Symbol} {f : Fault}
    (hs : ∀ x ∈ s, x.KeepsLines) (h : Document.readBody standalone s = .error f) :
    f.cause.IsOneLine := by
  unfold Document.readBody at h
  split at h
  · next hprolog =>
    cases h
    exact isOneLine_readProlog hprolog
  · next dtd r hprolog =>
    have hr : ∀ x ∈ r, x.KeepsLines := fun x hx => hs x ((suffix_readProlog hprolog).subset hx)
    split at h
    · next hcontent =>
      cases h
      exact isOneLine_readContent hr hcontent
    · split at h
      · next hepilog =>
        cases h
        exact isOneLine_readEpilog hepilog
      · cases h

/-- Whether an error is told on one line, for the errors that are faults of the document. -/
def DocumentError.IsOneLine : DocumentError → Prop
  | fault cause _ => cause.IsOneLine
  | charset f => ∀ reason, f = .refused reason → Text.IsOneLine reason

theorem isOneLine_ofDetected {bytes : List UInt8} {d : Encoding.Detection} {e : DocumentError}
    (h : Document.ofDetected bytes d = .error e) : e.IsOneLine := by
  have hbody := keepsLines_decode d.encoding (bytes.drop d.markSize)
  unfold Document.ofDetected at h
  dsimp only at h
  split at h
  · next hhead =>
    cases h
    exact isOneLine_readHead hhead
  · next name nameAt standalone r hhead =>
    have hr : ∀ x ∈ r, x.KeepsLines := fun x hx => hbody x ((suffix_readHead hhead).subset hx)
    split at h
    · next hswitch =>
      cases h
      exact isOneLine_switchTo hswitch
    · next hswitch =>
      cases h
      rintro reason rfl
      exact isOneLine_of_switchTo hswitch
    · split at h
      · next hread =>
        cases h
        refine isOneLine_readBody ?_ hread
        -- The rest is read on as it is, or all bytes behind the head are read anew.
        split
        · exact hr
        · exact hr
        · exact keepsLines_decode _ _
      · cases h
  · next heading r _ hhead =>
    have hr : ∀ x ∈ r, x.KeepsLines := fun x hx => hbody x ((suffix_readHead hhead).subset hx)
    split at h
    · next hread =>
      cases h
      exact isOneLine_readBody hr hread
    · cases h

theorem isOneLine_ofBytes {bytes : List UInt8} {e : DocumentError}
    (h : Document.ofBytes bytes = .error e) : e.IsOneLine := by
  unfold Document.ofBytes at h
  split at h
  · cases h
    trivial
  · exact isOneLine_ofDetected h

/-- What is wrong with bytes is told on one line, unless they declare an encoding that cannot be
used. -/
theorem isOneLine_message_of_ofBytes {bytes : List UInt8} {e : DocumentError}
    (h : Document.ofBytes bytes = .error e)
    (hfault : ∀ f, e = .charset f → ∃ reason, f = .refused reason) :
    Text.IsOneLine e.message := by
  have he := isOneLine_ofBytes h
  cases e with
  | fault cause position =>
      have hcause := Cause.IsOneLine.isOneLine_message he
      simp only [DocumentError.message, Text.isOneLine_append, Text.isOneLine_toString, hcause,
        true_and, and_true]
      decide
  | charset f =>
      obtain ⟨reason, rfl⟩ := hfault f rfl
      exact he reason rfl

end ServiceDoc.Xml
