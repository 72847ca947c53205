import ServiceDoc.Xml.Scan
/-!
# Tags

Start tags with their attributes as they are written, and end tags. Values are delimited and their
references checked for form only: what they stand for depends on the declarations of the document.
-/

namespace ServiceDoc.Xml

structure RawAttribute where
  name : List Char
  /-- The document from the name on. -/
  nameAt : List Symbol
  /-- What stands between the quotes. -/
  value : List Symbol
  /-- The document from the closing quote on. -/
  valueEnd : List Symbol
  deriving Repr

structure StartTag where
  name : List Char
  attributes : List RawAttribute
  /-- Whether it is the tag of an empty element. -/
  closed : Bool
  deriving Repr

/-- A value up to its closing quote, which stays in the rest; `acc` holds the symbols so far, the
last one first. -/
def scanValue (quote : Char) (acc : List Symbol) : List Symbol → Scan (List Symbol)
  | .char c role :: r =>
    if c = quote then .ok (acc.reverse, .char c role :: r)
    else if c = '<' then .error (.invalid (.char c role :: r))
    else if c = '&' then
      match scanReference r with
      | .error f => .error f
      | .ok _ => scanValue quote (.char c role :: acc) r
    else scanValue quote (.char c role :: acc) r
  | s => .error (stop s)

theorem length_scanValue_le {quote : Char} {acc s r v : List Symbol}
    (h : scanValue quote acc s = .ok (v, r)) : r.length ≤ s.length := by
  fun_induction scanValue quote acc s with
  | case1 => injection h with h; injection h with _ h; subst h; exact Nat.le_refl _
  | case2 => cases h
  | case3 => cases h
  | case4 _ _ _ _ _ _ _ ih => exact Nat.le_succ_of_le (ih h)
  | case5 _ _ _ _ _ _ _ ih => exact Nat.le_succ_of_le (ih h)
  | case6 => cases h

/-- What stands between a name and a value: an equals sign, with blanks on either side. -/
def scanEquals (s : List Symbol) : Except ScanFault (List Symbol) :=
  match s with
  | .char '=' _ :: r => .ok (skipBlanks r)
  | c :: r =>
    if c.isBlank then
      match skipBlanks r with
      | .char '=' _ :: r => .ok (skipBlanks r)
      | r => .error (reject r)
    else .error (stop s)
  | [] => .error .unclosed

theorem length_scanEquals_lt {s r : List Symbol} (h : scanEquals s = .ok r) :
    r.length < s.length := by
  unfold scanEquals at h
  split at h
  · next t =>
    injection h with h
    subst h
    exact Nat.lt_succ_of_le (length_skipBlanks_le t)
  · next c t _ =>
    split at h
    · split at h
      · next u hu =>
        injection h with h
        subst h
        have h1 := length_skipBlanks_le t
        have h2 := length_skipBlanks_le u
        rw [hu] at h1
        simp only [List.length_cons] at *
        omega
      · cases h
    · cases h
  · cases h

def scanAttribute (s : List Symbol) : Scan RawAttribute :=
  match scanQName s with
  | .error f => .error f
  | .ok (name, r) =>
    match scanEquals r with
    | .error f => .error f
    | .ok (.char q role :: r) =>
      if q = '\x22' ∨ q = '\x27' then
        match scanValue q [] r with
        | .error f => .error f
        | .ok (value, valueEnd) => .ok (⟨name, s, value, valueEnd⟩, valueEnd.tail)
      else .error (reject (.char q role :: r))
    | .ok r => .error (reject r)

theorem length_scanAttribute_lt {s r : List Symbol} {a : RawAttribute}
    (h : scanAttribute s = .ok (a, r)) : r.length < s.length := by
  unfold scanAttribute at h
  split at h
  · cases h
  · next n t hn =>
    have h1 := length_scanQName_lt hn
    split at h
    · cases h
    · next q role u hu =>
      have h2 := length_scanEquals_lt hu
      simp only [List.length_cons] at h2
      split at h
      · split at h
        · cases h
        · next v w hv =>
          have h3 := length_scanValue_le hv
          injection h with h
          injection h with _ h
          subst h
          simp only [List.length_tail]
          omega
      · cases h
    · cases h

/-- The end of a start tag, `>` or `/>`, with whether it is the latter; `none` where the symbols
begin neither. -/
def scanTagEnd : List Symbol → Option (Scan Bool)
  | .char '>' _ :: r => some (.ok (false, r))
  | .char '/' _ :: .char '>' _ :: r => some (.ok (true, r))
  | .char '/' _ :: r => some (.error (reject r))
  | _ => none

theorem length_scanTagEnd_lt {s r : List Symbol} {b : Bool}
    (h : scanTagEnd s = some (.ok (b, r))) : r.length < s.length := by
  unfold scanTagEnd at h
  split at h
  · injection h with h; injection h with h; injection h with _ h; subst h
    exact Nat.lt_succ_self _
  · injection h with h; injection h with h; injection h with _ h; subst h
    simp only [List.length_cons]
    omega
  · injection h with h; cases h
  · cases h

/-- The attributes of a tag and its end, from where an attribute or the end may stand. -/
def scanAttributes (acc : List RawAttribute) (s : List Symbol) :
    Scan (List RawAttribute × Bool) :=
  match scanTagEnd s with
  | some (.ok (closed, r)) => .ok ((acc.reverse, closed), r)
  | some (.error f) => .error f
  | none =>
    match _ha : scanAttribute s with
    | .error f => .error f
    | .ok (a, r) =>
      match scanTagEnd r with
      | some (.ok (closed, r)) => .ok (((a :: acc).reverse, closed), r)
      | some (.error f) => .error f
      | none =>
        match _hr : r with
        | [] => .error .unclosed
        | c :: t =>
          if c.isBlank then scanAttributes (a :: acc) (skipBlanks t)
          else .error (reject (c :: t))
termination_by s.length
decreasing_by
  have h1 := length_scanAttribute_lt _ha
  have h2 := length_skipBlanks_le t
  subst _hr
  simp only [List.length_cons] at h1
  omega

theorem length_scanAttributes_lt {acc : List RawAttribute} {s r : List Symbol}
    {x : List RawAttribute × Bool} (h : scanAttributes acc s = .ok (x, r)) :
    r.length < s.length := by
  fun_induction scanAttributes acc s with
  | case1 acc s closed r' he =>
    injection h with h; injection h with _ h; subst h
    exact length_scanTagEnd_lt he
  | case2 => cases h
  | case3 => cases h
  | case4 acc s _ a r' ha closed r'' he =>
    injection h with h; injection h with _ h; subst h
    exact Nat.lt_trans (length_scanTagEnd_lt he) (length_scanAttribute_lt ha)
  | case5 => cases h
  | case6 => cases h
  | case7 acc s _ a c t ha _ _ _ ih =>
    have h1 := ih h
    have h2 := length_scanAttribute_lt ha
    have h3 := length_skipBlanks_le t
    simp only [List.length_cons] at h2
    omega
  | case8 => cases h

/-- A start tag from behind its opening `<` on. -/
def scanStartTag (s : List Symbol) : Scan StartTag :=
  match scanQName s with
  | .error f => .error f
  | .ok (name, r) =>
    match scanTagEnd r with
    | some (.ok (closed, r)) => .ok (⟨name, [], closed⟩, r)
    | some (.error f) => .error f
    | none =>
      match r with
      | [] => .error .unclosed
      | c :: t =>
        if c.isBlank then
          match scanAttributes [] (skipBlanks t) with
          | .error f => .error f
          | .ok ((attributes, closed), r) => .ok (⟨name, attributes, closed⟩, r)
        else .error (stop (c :: t))

theorem length_scanStartTag_lt {s r : List Symbol} {t : StartTag}
    (h : scanStartTag s = .ok (t, r)) : r.length < s.length := by
  unfold scanStartTag at h
  split at h
  · cases h
  · next n u hn =>
    have h1 := length_scanQName_lt hn
    split at h
    · next he =>
      injection h with h; injection h with _ h; subst h
      exact Nat.lt_trans (length_scanTagEnd_lt he) h1
    · cases h
    · split at h
      · cases h
      · next c t' _ =>
        split at h
        · split at h
          · cases h
          · next ha =>
            have h2 := length_scanAttributes_lt ha
            have h3 := length_skipBlanks_le t'
            injection h with h; injection h with _ h; subst h
            simp only [List.length_cons] at h1
            omega
        · cases h

/-! ## End tags -/

/-- The name in an end tag after its first character. Colons may stand anywhere, as the name has to
agree with that of the start tag. -/
def endNameRest (acc : List Char) : List Symbol → List Char × List Symbol
  | .char c role :: r =>
    if role = .other ∧ c ≠ ':' then (acc.reverse, .char c role :: r) else endNameRest (c :: acc) r
  | s => (acc.reverse, s)

theorem length_endNameRest_le (acc : List Char) (s : List Symbol) :
    (endNameRest acc s).2.length ≤ s.length := by
  fun_induction endNameRest acc s with
  | case1 => exact Nat.le_refl _
  | case2 _ _ _ _ _ ih => exact Nat.le_succ_of_le ih
  | case3 => exact Nat.le_refl _

/-- An end tag from behind its opening `</` on. -/
def scanEndTag : List Symbol → Scan (List Char)
  | .char c .start :: r =>
    match endNameRest [c] r with
    | (name, .char '>' _ :: r) => .ok (name, r)
    | (name, c :: r) =>
      if c.isBlank then
        match skipBlanks r with
        | .char '>' _ :: r => .ok (name, r)
        | r => .error (reject r)
      else .error (stop (c :: r))
    | (_, []) => .error .unclosed
  | s => .error (stop s)

theorem length_scanEndTag_lt {s r : List Symbol} {n : List Char}
    (h : scanEndTag s = .ok (n, r)) : r.length < s.length := by
  unfold scanEndTag at h
  split at h
  · next c t =>
    have h1 := length_endNameRest_le [c] t
    split at h
    · next heq =>
      rw [heq] at h1
      injection h with h; injection h with _ h; subst h
      simp only [List.length_cons] at *
      omega
    · next d u _ heq =>
      rw [heq] at h1
      split at h
      · split at h
        · next w hw =>
          have h2 := length_skipBlanks_le u
          rw [hw] at h2
          injection h with h; injection h with _ h; subst h
          simp only [List.length_cons] at *
          omega
        · cases h
      · cases h
    · cases h
  · cases h

end ServiceDoc.Xml
