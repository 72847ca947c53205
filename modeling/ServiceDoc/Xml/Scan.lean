import ServiceDoc.Xml.Symbol
/-!
# Scanning

The pieces that markup is made of: names, references, quoted values, and the tokens that run to a
fixed end (comments, processing instructions). A scanner returns what it read with the symbols that
follow, or the fault that stopped it. Each one comes with the lemma that it consumes something,
which is what lets the readers above recurse on the length of the rest.

Two rules decide which fault it is where no symbol fits. Where a character is read (`stop`), an
input that ends inside the character is cut; where only the next unit is looked at (`reject`), such
a unit is a wrong one like any other.
-/

namespace ServiceDoc.Xml

/-- Why a piece could not be scanned. -/
inductive ScanFault where
  /-- The first of these symbols does not fit. -/
  | invalid (rest : List Symbol)
  /-- The input ends before the piece does. -/
  | unclosed
  /-- The input ends inside a character of the piece. -/
  | cutCharacter
  deriving Repr

/-- What was scanned, with the symbols that follow it. -/
abbrev Scan (α : Type) := Except ScanFault (α × List Symbol)

/-- The fault where a character was to be read and none fits. -/
def stop : List Symbol → ScanFault
  | [] => .unclosed
  | .stray :: _ => .unclosed
  | .cut :: _ => .cutCharacter
  | s => .invalid s

/-- The fault where the next unit was looked at and does not fit. -/
def reject : List Symbol → ScanFault
  | [] => .unclosed
  | .stray :: _ => .unclosed
  | s => .invalid s

/-! ## Names -/

/-- The rest of a name; `acc` holds its characters so far, the last one first. -/
def nameRest (acc : List Char) : List Symbol → List Char × List Symbol
  | .char c role :: r =>
    if role = .other then (acc.reverse, .char c role :: r) else nameRest (c :: acc) r
  | s => (acc.reverse, s)

theorem length_nameRest_le (acc : List Char) (s : List Symbol) :
    (nameRest acc s).2.length ≤ s.length := by
  fun_induction nameRest acc s with
  | case1 => exact Nat.le_refl _
  | case2 _ _ _ _ _ ih => exact Nat.le_succ_of_le ih
  | case3 => exact Nat.le_refl _

def scanName : List Symbol → Scan (List Char)
  | .char c .start :: r => .ok (nameRest [c] r)
  | s => .error (stop s)

theorem length_scanName_lt {s r : List Symbol} {n : List Char} (h : scanName s = .ok (n, r)) :
    r.length < s.length := by
  unfold scanName at h
  split at h
  · next c t =>
    have hl := length_nameRest_le [c] t
    injection h with h
    rw [h] at hl
    exact Nat.lt_succ_of_le hl
  · cases h

/-- A name, or two of them with a colon between. -/
def scanQName (s : List Symbol) : Scan (List Char) :=
  match scanName s with
  | .error f => .error f
  | .ok (n, .char ':' _ :: r) =>
    match scanName r with
    | .error f => .error f
    | .ok (m, r) => .ok (n ++ ':' :: m, r)
  | .ok (n, r) => .ok (n, r)

theorem length_scanQName_lt {s r : List Symbol} {n : List Char} (h : scanQName s = .ok (n, r)) :
    r.length < s.length := by
  unfold scanQName at h
  split at h
  · cases h
  · next n' _ t hn =>
    have h1 := length_scanName_lt hn
    simp only [List.length_cons] at h1
    split at h
    · cases h
    · next m t' hm =>
      have h2 := length_scanName_lt hm
      injection h with h
      injection h with _ h
      subst h
      omega
  · next hn =>
    injection h with h
    injection h with _ h
    exact h ▸ length_scanName_lt hn

/-! ## References -/

/-- What an ampersand introduces. -/
inductive Reference where
  /-- The number of a character; `none` if the number stands for no legal one. -/
  | char (c : Option Char)
  /-- The name of an entity. -/
  | entity (name : List Char)
  deriving Repr

/-- A run of characters that satisfy a test; `acc` holds those before it, the last one first. -/
def scanRun (test : Char → Bool) (acc : List Char) : List Symbol → List Char × List Symbol
  | .char c role :: r =>
    if test c then scanRun test (c :: acc) r else (acc.reverse, .char c role :: r)
  | s => (acc.reverse, s)

theorem length_scanRun_le (test : Char → Bool) (acc : List Char) (s : List Symbol) :
    (scanRun test acc s).2.length ≤ s.length := by
  fun_induction scanRun test acc s with
  | case1 _ _ _ _ _ ih => exact Nat.le_succ_of_le ih
  | case2 => exact Nat.le_refl _
  | case3 => exact Nat.le_refl _

def isHexDigit (c : Char) : Bool :=
  c.isDigit || ('a' ≤ c && c ≤ 'f') || ('A' ≤ c && c ≤ 'F')

def hexDigitValue (c : Char) : Nat :=
  if c.isDigit then c.toNat - 48 else if 'a' ≤ c then c.toNat - 87 else c.toNat - 55

def charOfNumber? (n : Nat) : Option Char :=
  if h : n.isValidChar then
    let c := Char.ofNatAux n h
    if isLegal c then some c else none
  else none

/-- The digits of a character's number, in base sixteen or ten, and the semicolon after them. -/
def scanCharNumber (hex : Bool) (s : List Symbol) : Scan Reference :=
  match scanRun (if hex then isHexDigit else Char.isDigit) [] s with
  | ([], r) => .error (reject r)
  | (ds, .char ';' _ :: r) =>
    let n := if hex then ds.foldl (fun n c => 16 * n + hexDigitValue c) 0
      else ds.foldl (fun n c => 10 * n + (c.toNat - 48)) 0
    .ok (.char (charOfNumber? n), r)
  | (_, r) => .error (reject r)

/-- What follows an ampersand, up to its semicolon. -/
def scanReference : List Symbol → Scan Reference
  | .char '#' _ :: .char 'x' _ :: r => scanCharNumber true r
  | .char '#' _ :: r => scanCharNumber false r
  | s =>
    match scanName s with
    | .error f => .error f
    | .ok (n, .char ';' _ :: r) => .ok (.entity n, r)
    | .ok (_, r) => .error (stop r)

theorem length_scanCharNumber_lt {hex : Bool} {s r : List Symbol} {x : Reference}
    (h : scanCharNumber hex s = .ok (x, r)) : r.length < s.length := by
  unfold scanCharNumber at h
  have hl := length_scanRun_le (if hex then isHexDigit else Char.isDigit) [] s
  split at h
  · cases h
  · next heq =>
    rw [heq] at hl
    simp only [List.length_cons] at hl
    injection h with h
    injection h with _ h
    subst h
    omega
  · cases h

theorem length_scanReference_lt {s r : List Symbol} {x : Reference}
    (h : scanReference s = .ok (x, r)) : r.length < s.length := by
  unfold scanReference at h
  split at h
  · have := length_scanCharNumber_lt h
    simp only [List.length_cons]
    omega
  · have := length_scanCharNumber_lt h
    simp only [List.length_cons]
    omega
  · split at h
    · cases h
    · next hn =>
      have h1 := length_scanName_lt hn
      simp only [List.length_cons] at h1
      injection h with h
      injection h with _ h
      subst h
      omega
    · cases h

/-! ## Comments and processing instructions -/

/-- A comment from behind its opening `<!--` on: two hyphens only at the end. -/
def scanComment : List Symbol → Except ScanFault (List Symbol)
  | .char '-' _ :: .char '-' _ :: .char '>' _ :: r => .ok r
  | .char '-' _ :: .char '-' _ :: r => .error (reject r)
  | .char '-' _ :: [] => .error .unclosed
  | .char _ _ :: r => scanComment r
  | s => .error (stop s)

theorem length_scanComment_lt {s r : List Symbol} (h : scanComment s = .ok r) :
    r.length < s.length := by
  fun_induction scanComment s with
  | case1 => injection h with h; subst h; simp only [List.length_cons]; omega
  | case2 => cases h
  | case3 => cases h
  | case4 _ _ _ _ _ _ ih => have := ih h; simp only [List.length_cons]; omega
  | case5 => cases h

/-- What a processing instruction is, by its target. -/
inductive Instruction where
  | ordinary
  /-- The declaration at the head of a document. -/
  | declaration
  deriving DecidableEq, Repr

/-- The kind of an instruction with that target; the name of the declaration is reserved in every
other mix of cases. -/
def Instruction.ofTarget? (target : List Char) : Option Instruction :=
  if target = ['x', 'm', 'l'] then some .declaration
  else if target.map Char.toLower = ['x', 'm', 'l'] then none
  else some .ordinary

/-- The body of an instruction up to its end, `?>`. -/
def scanInstructionBody : List Symbol → Except ScanFault (List Symbol)
  | .char '?' _ :: .char '>' _ :: r => .ok r
  | .char '?' _ :: [] => .error .unclosed
  | .char _ _ :: r => scanInstructionBody r
  | s => .error (stop s)

theorem length_scanInstructionBody_lt {s r : List Symbol}
    (h : scanInstructionBody s = .ok r) : r.length < s.length := by
  fun_induction scanInstructionBody s with
  | case1 => injection h with h; subst h; simp only [List.length_cons]; omega
  | case2 => cases h
  | case3 _ _ _ _ _ ih => have := ih h; simp only [List.length_cons]; omega
  | case4 => cases h

/-- A processing instruction from behind its opening `<?` on. -/
def scanInstruction (s : List Symbol) : Scan Instruction :=
  match scanName s with
  | .error f => .error f
  | .ok (target, r) =>
    match r with
    | .char '?' role :: r' =>
      match Instruction.ofTarget? target with
      | none => .error (.invalid (.char '?' role :: r'))
      | some kind =>
        match r' with
        | .char '>' _ :: r'' => .ok (kind, r'')
        | _ => .error (reject r')
    | c :: r' =>
      if c.isBlank then
        match Instruction.ofTarget? target with
        | none => .error (.invalid (c :: r'))
        | some kind => (scanInstructionBody r').map fun r'' => (kind, r'')
      else .error (stop (c :: r'))
    | [] => .error .unclosed

theorem length_scanInstruction_lt {s r : List Symbol} {k : Instruction}
    (h : scanInstruction s = .ok (k, r)) : r.length < s.length := by
  unfold scanInstruction at h
  split at h
  · cases h
  · next target t hn =>
    have h1 := length_scanName_lt hn
    split at h
    · next r' =>
      split at h
      · cases h
      · split at h
        · injection h with h
          injection h with _ h
          subst h
          simp only [List.length_cons] at h1
          omega
        · cases h
    · next c r' _ =>
      split at h
      · split at h
        · cases h
        · cases hb : scanInstructionBody r' with
          | error f => rw [hb] at h; cases h
          | ok r'' =>
            rw [hb] at h
            simp only [Except.map, Except.ok.injEq, Prod.mk.injEq] at h
            obtain ⟨_, h⟩ := h
            subst h
            have h2 := length_scanInstructionBody_lt hb
            simp only [List.length_cons] at h1
            omega
      · cases h
    · cases h

end ServiceDoc.Xml
