/-!
# Punycode

Text of any script in letters, digits and hyphens. The ASCII characters are written first. The
others are put in afterwards, in the order of their code points and, of equal ones, from left to
right. The insertions are counted through: all places for one code point, then all for the next.
What is written is how many possible insertions are left out before each real one.

The counts are `gaps`, and `insertGaps` makes the insertions again. Each count is a number of
several digits, the lowest first, in a system whose base changes with the size of the numbers
before.
-/

namespace ServiceDoc.Uri.Punycode

/-! ## Digits -/

def digitChar (d : Nat) : Char := if d < 26 then Char.ofNat (97 + d) else Char.ofNat (22 + d)

def digitValue? (c : Char) : Option Nat :=
  let c := c.toLower
  if 'a' ≤ c ∧ c ≤ 'z' then some (c.toNat - 97)
  else if '0' ≤ c ∧ c ≤ '9' then some (c.toNat - 22)
  else none

theorem digitValue?_digitChar {d : Nat} (h : d < 36) : digitValue? (digitChar d) = some d := by
  have all : ∀ d ∈ List.range 36, digitValue? (digitChar d) = some d := by decide
  exact all d (List.mem_range.mpr h)

/-- From where on a digit at a place says that more digits follow. -/
def threshold (place bias : Nat) : Nat := max 1 (min 26 (36 * (place + 1) - bias))

theorem threshold_pos (place bias : Nat) : 1 ≤ threshold place bias := by unfold threshold; omega

theorem threshold_le (place bias : Nat) : threshold place bias ≤ 26 := by unfold threshold; omega

def digits (bias place n : Nat) : List Char :=
  let t := threshold place bias
  if n < t then [digitChar n]
  else digitChar (t + (n - t) % (36 - t)) :: digits bias (place + 1) ((n - t) / (36 - t))
termination_by n
decreasing_by
  have pos := threshold_pos place bias
  have div := Nat.div_le_self (n - threshold place bias) (36 - threshold place bias)
  omega

/-- The number that digits write, and the text behind them; a digit at the place weighs `weight`. -/
def readDigits (bias place weight : Nat) : List Char → Option (Nat × List Char)
  | [] => none
  | c :: r =>
    match digitValue? c with
    | none => none
    | some d =>
      if d < threshold place bias then some (d * weight, r)
      else
        (readDigits bias (place + 1) (weight * (36 - threshold place bias)) r).map fun (n, r) =>
          (n + d * weight, r)

theorem length_lt_of_readDigits {bias place weight : Nat} {cs r : List Char} {n : Nat}
    (h : readDigits bias place weight cs = some (n, r)) : r.length < cs.length := by
  induction cs generalizing place weight n with
  | nil => simp [readDigits] at h
  | cons c cs ih =>
    rw [readDigits] at h
    split at h
    · simp at h
    · split at h
      · simp only [Option.some.injEq, Prod.mk.injEq] at h
        simp [h.2]
      · obtain ⟨⟨m, s⟩, hm, hs⟩ := Option.map_eq_some_iff.1 h
        simp only [Prod.mk.injEq] at hs
        have := ih (hs.2 ▸ hm)
        simp only [List.length_cons]
        omega

/-! ## Numbers -/

/-- Brings a number into the range that the bias is measured in, and counts the digits that it takes
away. -/
def scale (n bias : Nat) : Nat :=
  if 455 < n then scale (n / 35) (bias + 36) else bias + 36 * n / (n + 38)
termination_by n
decreasing_by exact Nat.div_lt_self (by omega) (by omega)

/-- The bias after a number, where the text then has `size` characters. The first number says little
about those that follow. -/
def nextBias (isFirst : Bool) (n size : Nat) : Nat :=
  let n := if isFirst then n / 700 else n / 2
  scale (n + n / size) 0

/-- Numbers as digits, from a text of `size` characters on. -/
def writeNumbers (isFirst : Bool) (bias size : Nat) : List Nat → List Char
  | [] => []
  | n :: r => digits bias 0 n ++ writeNumbers false (nextBias isFirst n (size + 1)) (size + 1) r

/-- The numbers that digits write, from a text of `size` characters on. -/
def readNumbers (isFirst : Bool) (bias size : Nat) (cs : List Char) : Option (List Nat) :=
  if cs.isEmpty then some []
  else
    match _h : readDigits bias 0 1 cs with
    | none => none
    | some (n, r) =>
      (readNumbers false (nextBias isFirst n (size + 1)) (size + 1) r).map (n :: ·)
termination_by cs.length
decreasing_by exact length_lt_of_readDigits _h

def firstBias : Nat := 72

/-! ## Insertions -/

/-- The characters outside ASCII of a text, each with the number of smaller or equal ones before
it; `before` is the text before them. -/
def places (before : List Char) : List Char → List (Char × Nat)
  | [] => []
  | c :: r =>
    if c.toNat < 0x80 then places (c :: before) r
    else (c, before.countP (· ≤ c)) :: places (c :: before) r

/-- The insertions left out before each real one, where `size` characters are there, and the next
possible insertion is one of `code` at `place`. -/
def gaps (size code place : Nat) : List (Char × Nat) → List Nat
  | [] => []
  | (c, p) :: r =>
    ((c.toNat - code) * (size + 1) + p - place) :: gaps (size + 1) c.toNat (p + 1) r

/-- A text with the insertions made, where the next possible one is one of `code` at `place`. -/
def insertGaps (text : List Char) (code place : Nat) : List Nat → Option (List Char)
  | [] => some text
  | n :: r =>
    let code := code + (place + n) / (text.length + 1)
    let place := (place + n) % (text.length + 1)
    if code.isValidChar then insertGaps (text.insertIdx place (Char.ofNat code)) code (place + 1) r
    else none

/-! ## Writing and reading -/

def encode (text : List Char) : List Char :=
  let base := text.filter (·.toNat < 0x80)
  let inserted := (places [] text).mergeSort (fun a b => a.1 ≤ b.1)
  base ++ (if base.isEmpty then [] else ['-']) ++
    writeNumbers true firstBias base.length (gaps base.length 0x80 0 inserted)

def decode? (cs : List Char) : Option (List Char) :=
  let (base, numbers) :=
    match cs.reverse.span (· ≠ '-') with
    | (last, _ :: before) => (before.reverse, last.reverse)
    | (_, []) => ([], cs)
  (readNumbers true firstBias base.length numbers).bind fun ns => insertGaps base 0x80 0 ns

end ServiceDoc.Uri.Punycode
