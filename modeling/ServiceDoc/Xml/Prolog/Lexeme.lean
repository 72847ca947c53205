import ServiceDoc.Xml.Fault
/-!
# Lexemes of the prolog

Before the root element, and after it, a document is a sequence of lexemes: blanks, comments,
instructions, and the names, literals and marks that declarations are made of. Which lexeme begins
at a place does not depend on those before it.
-/

namespace ServiceDoc.Xml

inductive Lexeme where
  | blanks
  | comment
  | instruction (kind : Instruction)
  /-- The beginning `<!` of a declaration, with its keyword. -/
  | declaration (keyword : List Char)
  /-- The beginning `<![` of a section. -/
  | sectionOpen
  /-- The end `]]>` of a section. -/
  | sectionClose
  /-- The end `>` of a declaration. -/
  | close
  /-- A name without a colon. -/
  | name (n : List Char)
  /-- A name with one colon inside. -/
  | prefixedName (n : List Char)
  /-- Any other sequence of characters of names and colons. -/
  | nameToken (n : List Char)
  /-- A name followed by a mark for how often it may stand: `?`, `*` or `+`. -/
  | countedName
  /-- A name behind a number sign. -/
  | keyword (n : List Char)
  /-- A percent sign that stands alone. -/
  | percent
  /-- A reference to a parameter entity. -/
  | parameterReference
  /-- A quoted literal, and the document from its closing quote on. -/
  | literal (value : List Symbol) (valueEnd : List Symbol)
  | bracketOpen
  | bracketClose
  | parenOpen
  /-- A closing parenthesis with the mark behind it, if there is one. -/
  | parenClose (mark : Option Char)
  | comma
  | bar
  /-- The tag of the root element, which is not consumed. -/
  | rootTag
  deriving Repr

def Lexeme.isRootTag : Lexeme → Bool
  | rootTag => true
  | _ => false

/-! ## Declarations, literals and references -/

/-- The keyword of a declaration after its first letter; `acc` holds it so far, the last letter
first. It ends at a blank, or at a percent sign that begins a reference. -/
def keywordRest (acc : List Char) : List Symbol → Scan (List Char)
  | .char '%' role :: r =>
    match r with
    | [] => .error .unclosed
    | .char '%' _ :: _ => .error (.invalid (.char '%' role :: r))
    | c :: _ =>
      if c.isBlank then .error (.invalid (.char '%' role :: r))
      else .ok (acc.reverse, .char '%' role :: r)
  | .char c role :: r =>
    if Symbol.isBlank (.char c role) then .ok (acc.reverse, .char c role :: r)
    else if c.isAlpha ∨ c = '_' then keywordRest (c :: acc) r
    else .error (.invalid (.char c role :: r))
  | s => .error (reject s)

theorem length_keywordRest_le {acc k : List Char} {s r : List Symbol}
    (h : keywordRest acc s = .ok (k, r)) : r.length ≤ s.length := by
  fun_induction keywordRest acc s with
  | case1 => cases h
  | case2 => cases h
  | case3 => cases h
  | case4 => injection h with h; injection h with _ h; subst h; exact Nat.le_refl _
  | case5 => injection h with h; injection h with _ h; subst h; exact Nat.le_refl _
  | case6 => next ih => exact Nat.le_succ_of_le (ih h)
  | case7 => cases h
  | case8 => cases h

/-- What follows `<!` in the prolog. -/
def scanDeclaration : List Symbol → Scan Lexeme
  | .char '-' _ :: .char '-' _ :: r => (scanComment r).map fun r => (.comment, r)
  | .char '-' _ :: r => .error (reject r)
  | .char '[' _ :: r => .ok (.sectionOpen, r)
  | .char c role :: r =>
    if c.isAlpha ∨ c = '_' then
      match keywordRest [c] r with
      | .error f => .error f
      | .ok (k, r) => .ok (.declaration k, r)
    else .error (.invalid (.char c role :: r))
  | s => .error (reject s)

theorem length_scanDeclaration_lt {s r : List Symbol} {x : Lexeme}
    (h : scanDeclaration s = .ok (x, r)) : r.length < s.length := by
  unfold scanDeclaration at h
  split at h
  · next t =>
    cases hc : scanComment t with
    | error f => rw [hc] at h; cases h
    | ok u =>
      rw [hc] at h
      have := length_scanComment_lt hc
      simp only [Except.map, Except.ok.injEq, Prod.mk.injEq] at h
      obtain ⟨_, h⟩ := h
      subst h
      simp only [List.length_cons]
      omega
  · cases h
  · injection h with h; injection h with _ h; subst h; exact Nat.lt_succ_self _
  · split at h
    · split at h
      · cases h
      · next hk =>
        have := length_keywordRest_le hk
        injection h with h; injection h with _ h; subst h
        exact Nat.lt_succ_of_le this
    · cases h
  · cases h

/-- A literal up to its closing quote, which stays in the rest; `acc` holds the symbols so far, the
last one first. -/
def scanLiteral (quote : Char) (acc : List Symbol) : List Symbol → Scan (List Symbol)
  | .char c role :: r =>
    if c = quote then .ok (acc.reverse, .char c role :: r)
    else scanLiteral quote (.char c role :: acc) r
  | s => .error (stop s)

theorem length_scanLiteral_le {quote : Char} {acc s r v : List Symbol}
    (h : scanLiteral quote acc s = .ok (v, r)) : r.length ≤ s.length := by
  fun_induction scanLiteral quote acc s with
  | case1 => injection h with h; injection h with _ h; subst h; exact Nat.le_refl _
  | case2 => next ih => exact Nat.le_succ_of_le (ih h)
  | case3 => cases h

/-- Whether a literal may end here: before a blank, `>`, `%`, `[` or the end of the input. -/
def endsLiteral : List Symbol → Bool
  | [] => true
  | .stray :: _ => true
  | .char c role :: _ => Symbol.isBlank (.char c role) || c = '>' || c = '%' || c = '['
  | _ => false

def scanQuoted (quote : Char) (s : List Symbol) : Scan Lexeme :=
  match scanLiteral quote [] s with
  | .error f => .error f
  | .ok (value, valueEnd) =>
    if endsLiteral valueEnd.tail then .ok (.literal value valueEnd, valueEnd.tail)
    else .error (.invalid valueEnd.tail)

theorem length_scanQuoted_le {quote : Char} {s r : List Symbol} {x : Lexeme}
    (h : scanQuoted quote s = .ok (x, r)) : r.length ≤ s.length := by
  unfold scanQuoted at h
  split at h
  · cases h
  · next hl =>
    have := length_scanLiteral_le hl
    split at h
    · injection h with h; injection h with _ h; subst h
      simp only [List.length_tail]
      omega
    · cases h

/-- What follows a percent sign: the rest of a reference, or nothing that belongs to it. -/
def scanPercent : List Symbol → Scan Lexeme
  | .char '%' role :: r => .ok (.percent, .char '%' role :: r)
  | s =>
    match s with
    | [] => .error .unclosed
    | c :: _ =>
      if c.isBlank then .ok (.percent, s)
      else
        match scanName s with
        | .error f => .error f
        | .ok (_, .char ';' _ :: r) => .ok (.parameterReference, r)
        | .ok (_, r) => .error (stop r)

theorem length_scanPercent_le {s r : List Symbol} {x : Lexeme}
    (h : scanPercent s = .ok (x, r)) : r.length ≤ s.length := by
  unfold scanPercent at h
  split at h
  · injection h with h; injection h with _ h; subst h; exact Nat.le_refl _
  · split at h
    · cases h
    · split at h
      · injection h with h; injection h with _ h; subst h; exact Nat.le_refl _
      · split at h
        · cases h
        · next hn =>
          have := length_scanName_lt hn
          injection h with h; injection h with _ h; subst h
          simp only [List.length_cons] at *
          omega
        · cases h

/-! ## Names -/

def endsName (c : Char) : Bool :=
  c = '>' || c = ')' || c = ',' || c = '|' || c = '[' || c = '%' || c = ' ' || c = '\t'
    || c = '\n' || c = '\r'

/-- The forms that a sequence of characters of names may have, by its beginning. -/
inductive NameForm where
  | plain
  | qualified
  | token
  deriving DecidableEq, Repr

def NameForm.toLexeme (form : NameForm) (n : List Char) : Lexeme :=
  match form with
  | .plain => .name n
  | .qualified => .prefixedName n
  | .token => .nameToken n

/-- The rest of a sequence of characters of names; `acc` holds those before it, the last one
first. -/
def scanNameToken (form : NameForm) (acc : List Char) : List Symbol → Scan Lexeme
  | .char ':' _ :: r =>
    match form with
    | .plain =>
      match r with
      | [] => .error .unclosed
      | .stray :: _ => .error .unclosed
      | .cut :: _ => .error .cutCharacter
      | .char _ .other :: _ => scanNameToken .token (':' :: acc) r
      | _ => scanNameToken .qualified (':' :: acc) r
    | _ => scanNameToken .token (':' :: acc) r
  | .char c role :: r =>
    if role ≠ .other then scanNameToken form (c :: acc) r
    else if endsName c then .ok (form.toLexeme acc.reverse, .char c role :: r)
    else if (c = '?' ∨ c = '*' ∨ c = '+') ∧ form ≠ .token then .ok (.countedName, r)
    else .error (.invalid (.char c role :: r))
  | [] => .ok (form.toLexeme acc.reverse, [])
  | .stray :: _ => .ok (form.toLexeme acc.reverse, [])
  | s => .error (stop s)

theorem length_scanNameToken_le {form : NameForm} {acc : List Char} {s r : List Symbol} {x : Lexeme}
    (h : scanNameToken form acc s = .ok (x, r)) : r.length ≤ s.length := by
  fun_induction scanNameToken form acc s with
  | case1 => cases h
  | case2 => cases h
  | case3 => cases h
  | case4 => next ih => exact Nat.le_succ_of_le (ih h)
  | case5 => next ih => exact Nat.le_succ_of_le (ih h)
  | case6 => next ih => exact Nat.le_succ_of_le (ih h)
  | case7 => next ih => exact Nat.le_succ_of_le (ih h)
  | case8 => injection h with h; injection h with _ h; subst h; exact Nat.le_refl _
  | case9 => injection h with h; injection h with _ h; subst h; exact Nat.le_succ _
  | case10 => cases h
  | case11 => injection h with h; injection h with _ h; subst h; exact Nat.le_refl _
  | case12 => injection h with h; injection h with _ h; subst h; exact Nat.zero_le _
  | case13 => cases h

def NameForm.of? (c : Char) (role : NameRole) : Option NameForm :=
  match role with
  | .start => some .plain
  | .inner => some .token
  | .other => if c = ':' then some .token else none

def scanKeyword (s : List Symbol) : Scan Lexeme :=
  match scanName s with
  | .error f => .error f
  | .ok (n, r) =>
    match r with
    | [] => .ok (.keyword n, [])
    | .stray :: _ => .ok (.keyword n, [])
    | .char c role :: r' =>
      if endsName c && c ≠ ',' && c ≠ '[' then .ok (.keyword n, .char c role :: r')
      else .error (.invalid (.char c role :: r'))
    | s => .error (stop s)

theorem length_scanKeyword_lt {s r : List Symbol} {x : Lexeme}
    (h : scanKeyword s = .ok (x, r)) : r.length < s.length := by
  unfold scanKeyword at h
  split at h
  · cases h
  · next hn =>
    have := length_scanName_lt hn
    split at h
    · injection h with h; injection h with _ h; subst h; exact this
    · injection h with h; injection h with _ h; subst h
      simp only [List.length_cons, List.length_nil] at *
      omega
    · split at h
      · injection h with h; injection h with _ h; subst h; exact this
      · cases h
    · cases h

/-! ## Lexemes -/

/-- What follows a closing bracket. -/
def scanBracketClose : List Symbol → Scan Lexeme
  | [] => .error .unclosed
  | .char ']' _ :: [] => .error .unclosed
  | .char ']' _ :: .char '>' _ :: r => .ok (.sectionClose, r)
  | r => .ok (.bracketClose, r)

/-- What follows a closing parenthesis. -/
def scanParenClose : List Symbol → Scan Lexeme
  | [] => .error .unclosed
  | .char c role :: r =>
    if c = '*' ∨ c = '?' ∨ c = '+' then .ok (.parenClose (some c), r)
    else if Symbol.isBlank (.char c role) ∨ c = '>' ∨ c = ',' ∨ c = '|' ∨ c = ')' then
      .ok (.parenClose none, .char c role :: r)
    else .error (.invalid (.char c role :: r))
  | s => .error (reject s)

/-- Whether a tag begins behind `<`: with a letter, or with anything that is not ASCII. -/
def beginsTag : List Symbol → Bool
  | .cut :: _ => true
  | .char c role :: _ => 0x80 ≤ c.toNat || role = .start
  | _ => false

def scanLexeme : List Symbol → Scan Lexeme
  | .char '<' role :: r =>
    match r with
    | .char '!' _ :: r => scanDeclaration r
    | .char '?' _ :: r =>
      match scanInstruction r with
      | .error f => .error f
      | .ok (kind, r) => .ok (.instruction kind, r)
    | _ => if beginsTag r then .ok (.rootTag, .char '<' role :: r) else .error (reject r)
  | .char '\x22' _ :: r => scanQuoted '\x22' r
  | .char '\x27' _ :: r => scanQuoted '\x27' r
  | .char '%' _ :: r => scanPercent r
  | .char ',' _ :: r => .ok (.comma, r)
  | .char '[' _ :: r => .ok (.bracketOpen, r)
  | .char ']' _ :: r => scanBracketClose r
  | .char '(' _ :: r => .ok (.parenOpen, r)
  | .char ')' _ :: r => scanParenClose r
  | .char '|' _ :: r => .ok (.bar, r)
  | .char '>' _ :: r => .ok (.close, r)
  | .char '#' _ :: r => scanKeyword r
  | .char c role :: r =>
    if Symbol.isBlank (.char c role) then .ok (.blanks, skipBlanks r)
    else
      match NameForm.of? c role with
      | some form => scanNameToken form [c] r
      | none => .error (.invalid (.char c role :: r))
  | s => .error (stop s)

theorem length_scanBracketClose_le {s r : List Symbol} {x : Lexeme}
    (h : scanBracketClose s = .ok (x, r)) : r.length ≤ s.length := by
  unfold scanBracketClose at h
  split at h
  · cases h
  · cases h
  · injection h with h; injection h with _ h; subst h; simp only [List.length_cons]; omega
  · injection h with h; injection h with _ h; subst h; exact Nat.le_refl _

theorem length_scanParenClose_le {s r : List Symbol} {x : Lexeme}
    (h : scanParenClose s = .ok (x, r)) : r.length ≤ s.length := by
  unfold scanParenClose at h
  split at h
  · cases h
  · split at h
    · injection h with h; injection h with _ h; subst h; exact Nat.le_succ _
    · split at h
      · injection h with h; injection h with _ h; subst h; exact Nat.le_refl _
      · cases h
  · cases h

/-- Every lexeme but the tag of the root consumes something. -/
theorem length_scanLexeme_lt {s r : List Symbol} {x : Lexeme} (h : scanLexeme s = .ok (x, r))
    (hx : x ≠ .rootTag) : r.length < s.length := by
  unfold scanLexeme at h
  split at h
  · split at h
    · have := length_scanDeclaration_lt h
      simp only [List.length_cons]
      omega
    · split at h
      · cases h
      · next hi =>
        have := length_scanInstruction_lt hi
        injection h with h; injection h with _ h; subst h
        simp only [List.length_cons]
        omega
    · split at h
      · injection h with h; injection h with h' h; exact absurd h'.symm hx
      · cases h
  · exact Nat.lt_succ_of_le (length_scanQuoted_le h)
  · exact Nat.lt_succ_of_le (length_scanQuoted_le h)
  · exact Nat.lt_succ_of_le (length_scanPercent_le h)
  · injection h with h; injection h with _ h; subst h; exact Nat.lt_succ_self _
  · injection h with h; injection h with _ h; subst h; exact Nat.lt_succ_self _
  · exact Nat.lt_succ_of_le (length_scanBracketClose_le h)
  · injection h with h; injection h with _ h; subst h; exact Nat.lt_succ_self _
  · exact Nat.lt_succ_of_le (length_scanParenClose_le h)
  · injection h with h; injection h with _ h; subst h; exact Nat.lt_succ_self _
  · injection h with h; injection h with _ h; subst h; exact Nat.lt_succ_self _
  · exact Nat.lt_succ_of_lt (length_scanKeyword_lt h)
  · split at h
    · injection h with h; injection h with _ h; subst h
      exact Nat.lt_succ_of_le (length_skipBlanks_le _)
    · split at h
      · exact Nat.lt_succ_of_le (length_scanNameToken_le h)
      · cases h
  · cases h

/-! ## Sequences -/

structure Placed where
  lexeme : Lexeme
  start : List Symbol

/-- How a sequence of lexemes ends. -/
inductive LexemeEnd where
  | finished
  /-- With the tag of the root, where the document goes on. -/
  | root (s : List Symbol)
  | fault (f : Fault)

/-- The lexemes up to the root, a fault or the end; `acc` holds those before, the last one first. -/
def lexemes (acc : List Placed) (s : List Symbol) : List Placed × LexemeEnd :=
  match s with
  | [] => (acc.reverse, .finished)
  | s =>
    match _h : scanLexeme s with
    | .error f => (acc.reverse, .fault (f.toFault s))
    | .ok (x, r) =>
      if _hx : x.isRootTag then (acc.reverse, .root s) else lexemes (⟨x, s⟩ :: acc) r
termination_by s.length
decreasing_by
  exact length_scanLexeme_lt _h fun e => _hx (e ▸ rfl)

end ServiceDoc.Xml
