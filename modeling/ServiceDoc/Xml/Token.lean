import ServiceDoc.Xml.Fault
import ServiceDoc.Xml.Tag
/-!
# Tokens of content

Content is a sequence of tokens, and where one begins its first characters say which it is. Each
token is scanned without regard to those before it; which tokens may follow each other is the
business of the tree.
-/

namespace ServiceDoc.Xml

inductive Token where
  /-- A run of characters, its line ends made line feeds. -/
  | text (cs : List Char)
  | reference (r : Reference)
  | startTag (t : StartTag)
  /-- The name in an end tag, and the document from that name on. -/
  | endTag (name : List Char) (nameAt : List Symbol)
  | comment
  | instruction (kind : Instruction)
  deriving Repr

/-! ## Characters -/

/-- A character of content; a carriage return that stands alone is a line end too. -/
def lineEnd (c : Char) : Char := if c = '\r' then '\n' else c

/-- A run of characters up to markup, to an illegal symbol or to a final carriage return, which may
be half of a line end; `acc` holds those before it, the last one first. -/
def scanText (acc : List Char) : List Symbol → Except Fault (List Char × List Symbol)
  | .char ']' _ :: .char ']' _ :: .char '>' role :: r =>
    .error ⟨.invalidToken, .char '>' role :: r⟩
  | .char '\r' _ :: .char '\n' _ :: r => scanText ('\n' :: acc) r
  | .char '\r' role :: [] => .ok (acc.reverse, [.char '\r' role])
  | .char c role :: r =>
    if c = '<' ∨ c = '&' then .ok (acc.reverse, .char c role :: r)
    else scanText (lineEnd c :: acc) r
  | s => .ok (acc.reverse, s)

theorem length_scanText_le {acc cs : List Char} {s r : List Symbol}
    (h : scanText acc s = .ok (cs, r)) : r.length ≤ s.length := by
  fun_induction scanText acc s with
  | case1 => cases h
  | case2 _ _ _ _ ih => have := ih h; simp only [List.length_cons]; omega
  | case3 => injection h with h; injection h with _ h; subst h; exact Nat.le_refl _
  | case4 => injection h with h; injection h with _ h; subst h; exact Nat.le_refl _
  | case5 => next ih => exact Nat.le_succ_of_le (ih h)
  | case6 => injection h with h; injection h with _ h; subst h; exact Nat.le_refl _

/-! ## CDATA sections -/

/-- Whether at least `n` units of UTF-8 follow. -/
def hasUnits : Nat → List Symbol → Bool
  | 0, _ => true
  | _ + 1, [] => false
  | n + 1, .char c _ :: r => hasUnits (n + 1 - c.utf8Size) r
  | n + 1, _ :: r => hasUnits n r
termination_by _ s => s.length

def scanFixed : List Char → List Symbol → Except ScanFault (List Symbol)
  | [], s => .ok s
  | c :: cs, .char d role :: r =>
    if c = d then scanFixed cs r else .error (.invalid (.char d role :: r))
  | _ :: _, s => .error (reject s)

theorem length_scanFixed_le {cs : List Char} {s r : List Symbol} (h : scanFixed cs s = .ok r) :
    r.length ≤ s.length := by
  fun_induction scanFixed cs s with
  | case1 => injection h with h; subst h; exact Nat.le_refl _
  | case2 => next ih => exact Nat.le_succ_of_le (ih h)
  | case3 => cases h
  | case4 => cases h

/-- A section from behind its opening on, up to its end `]]>`. -/
def scanCdata (acc : List Char) : List Symbol → Except Fault (List Char × List Symbol)
  | .char ']' _ :: .char ']' _ :: .char '>' _ :: r => .ok (acc.reverse, r)
  | .char ']' a :: .char ']' b :: [] => .error ⟨.unclosedCdata, [.char ']' a, .char ']' b]⟩
  | .char ']' a :: [] => .error ⟨.unclosedCdata, [.char ']' a]⟩
  | .char '\r' a :: [] => .error ⟨.unclosedCdata, [.char '\r' a]⟩
  | .char '\r' _ :: .char '\n' _ :: r => scanCdata ('\n' :: acc) r
  | .char c _ :: r => scanCdata (lineEnd c :: acc) r
  | .malformed :: r => .error ⟨.invalidToken, .malformed :: r⟩
  | .cut :: r => .error ⟨.partialCharacter, .cut :: r⟩
  | s => .error ⟨.unclosedCdata, s⟩

theorem length_scanCdata_lt {acc cs : List Char} {s r : List Symbol}
    (h : scanCdata acc s = .ok (cs, r)) : r.length < s.length := by
  fun_induction scanCdata acc s with
  | case1 =>
    injection h with h; injection h with _ h; subst h
    simp only [List.length_cons]; omega
  | case2 => cases h
  | case3 => cases h
  | case4 => cases h
  | case5 _ _ _ _ ih => have := ih h; simp only [List.length_cons]; omega
  | case6 => next ih => have := ih h; simp only [List.length_cons]; omega
  | case7 => cases h
  | case8 => cases h
  | case9 => cases h

/-! ## Tokens -/

/-- What follows `<!` in content: a comment or a CDATA section. -/
def scanSection (start : List Symbol) : List Symbol → Except Fault (Token × List Symbol)
  | .char '-' _ :: .char '-' _ :: r =>
    match scanComment r with
    | .error f => .error (f.toFault start)
    | .ok r => .ok (.comment, r)
  | .char '-' _ :: r => .error ((reject r).toFault start)
  | .char '[' _ :: r =>
    if hasUnits 6 r then
      match scanFixed ['C', 'D', 'A', 'T', 'A', '['] r with
      | .error f => .error (f.toFault start)
      | .ok r =>
        match scanCdata [] r with
        | .error f => .error f
        | .ok (cs, r) => .ok (.text cs, r)
    else .error ⟨.unclosedToken, start⟩
  | s => .error ((reject s).toFault start)

theorem length_scanSection_lt {start s r : List Symbol} {t : Token}
    (h : scanSection start s = .ok (t, r)) : r.length < s.length := by
  unfold scanSection at h
  split at h
  · split at h
    · cases h
    · next hc =>
      have := length_scanComment_lt hc
      injection h with h; injection h with _ h; subst h
      simp only [List.length_cons]
      omega
  · cases h
  · split at h
    · split at h
      · cases h
      · next hf =>
        have h1 := length_scanFixed_le hf
        split at h
        · cases h
        · next hc =>
          have h2 := length_scanCdata_lt hc
          injection h with h; injection h with _ h; subst h
          simp only [List.length_cons]
          omega
    · cases h
  · cases h

/-- What follows `<` in content. -/
def scanMarkup (start : List Symbol) : List Symbol → Except Fault (Token × List Symbol)
  | .char '!' _ :: r => scanSection start r
  | .char '?' _ :: r =>
    match scanInstruction r with
    | .error f => .error (f.toFault start)
    | .ok (kind, r) => .ok (.instruction kind, r)
  | .char '/' _ :: r =>
    match scanEndTag r with
    | .error f => .error (f.toFault start)
    | .ok (name, r') => .ok (.endTag name r, r')
  | s =>
    match scanStartTag s with
    | .error f => .error (f.toFault start)
    | .ok (t, r) => .ok (.startTag t, r)

theorem length_scanMarkup_lt {start s r : List Symbol} {t : Token}
    (h : scanMarkup start s = .ok (t, r)) : r.length < s.length := by
  unfold scanMarkup at h
  split at h
  · exact Nat.lt_succ_of_lt (length_scanSection_lt h)
  · split at h
    · cases h
    · next hi =>
      injection h with h; injection h with _ h; subst h
      exact Nat.lt_succ_of_lt (length_scanInstruction_lt hi)
  · split at h
    · cases h
    · next he =>
      injection h with h; injection h with _ h; subst h
      exact Nat.lt_succ_of_lt (length_scanEndTag_lt he)
  · split at h
    · cases h
    · next ht =>
      injection h with h; injection h with _ h; subst h
      exact length_scanStartTag_lt ht

def scanToken : List Symbol → Except Fault (Token × List Symbol)
  | .char '<' role :: r => scanMarkup (.char '<' role :: r) r
  | .char '&' role :: r =>
    match scanReference r with
    | .error f => .error (f.toFault (.char '&' role :: r))
    | .ok (x, r) => .ok (.reference x, r)
  | .char ']' _ :: .char ']' _ :: .char '>' role :: r =>
    .error ⟨.invalidToken, .char '>' role :: r⟩
  | .char '\r' _ :: .char '\n' _ :: r =>
    match scanText ['\n'] r with
    | .error f => .error f
    | .ok (cs, r) => .ok (.text cs, r)
  | .char c _ :: r =>
    match scanText [lineEnd c] r with
    | .error f => .error f
    | .ok (cs, r) => .ok (.text cs, r)
  | s => .error ((stop s).toFault s)

theorem length_scanToken_lt {s r : List Symbol} {t : Token} (h : scanToken s = .ok (t, r)) :
    r.length < s.length := by
  unfold scanToken at h
  split at h
  · exact Nat.lt_succ_of_lt (length_scanMarkup_lt h)
  · split at h
    · cases h
    · next hx =>
      injection h with h; injection h with _ h; subst h
      exact Nat.lt_succ_of_lt (length_scanReference_lt hx)
  · cases h
  · split at h
    · cases h
    · next hx =>
      have := length_scanText_le hx
      injection h with h; injection h with _ h; subst h
      simp only [List.length_cons]
      omega
  · split at h
    · cases h
    · next hx =>
      have := length_scanText_le hx
      injection h with h; injection h with _ h; subst h
      simp only [List.length_cons]
      omega
  · cases h

end ServiceDoc.Xml
