import ServiceDoc.Text.CompositionTable
/-!
# Composed text

A letter with marks has several spellings: one character for the whole, or the letter and its marks
one by one, in several orders. The composed spelling is the one that uses the fewest characters and
puts marks of different places in the order of their classes. It comes from the full decomposition
by sorting the marks and then putting characters together from the left.
-/

namespace ServiceDoc.Text.Composition

/-- The combining class of a character: zero for one that marks stand on, and else the place of a
mark. -/
def classOf (c : Char) : Nat := ((classes.find? c.toNat).map (·.2)).getD 0

/-! ## Hangul

A syllable is a leading consonant, a vowel and possibly a trailing consonant; the syllables are
numbered in that order. -/

def syllableParts (n : Nat) : List Char :=
  let lead := Char.ofNat (0x1100 + n / 588)
  let vowel := Char.ofNat (0x1161 + n % 588 / 28)
  if n % 28 = 0 then [lead, vowel] else [lead, vowel, Char.ofNat (0x11a7 + n % 28)]

/-- A leading consonant with a vowel, or a syllable without a trailing consonant with one. -/
def syllable? (a b : Nat) : Option Nat :=
  if 0x1100 ≤ a ∧ a < 0x1113 ∧ 0x1161 ≤ b ∧ b < 0x1176 then
    some (0xac00 + ((a - 0x1100) * 21 + (b - 0x1161)) * 28)
  else if 0xac00 ≤ a ∧ a < 0xd7a4 ∧ (a - 0xac00) % 28 = 0 ∧ 0x11a7 < b ∧ b < 0x11c3 then
    some (a + (b - 0x11a7))
  else none

/-! ## Taking apart -/

/-- The parts of a character, the first of which is taken apart again as often as `depth` says. -/
def parts (depth : Nat) (c : Char) : List Char :=
  if 0xac00 ≤ c.toNat ∧ c.toNat < 0xd7a4 then syllableParts (c.toNat - 0xac00)
  else
    match depth, pairs.find? (·.1 = c.toNat) with
    | depth + 1, some (_, a, b) => parts depth (Char.ofNat a) ++ [Char.ofNat b]
    | _, _ => [c]

def maxDepth : Nat := 3

def decompose (cs : List Char) : List Char := cs.flatMap (parts maxDepth)

/-! ## Sorting -/

/-- Adds a character behind a text whose last character comes first: a mark goes before the marks of
higher classes. -/
def attach (c : Char) : List Char → List Char
  | [] => [c]
  | b :: r => if classOf c ≠ 0 ∧ classOf c < classOf b then b :: attach c r else c :: b :: r

def sortMarks (cs : List Char) : List Char := (cs.foldl (fun acc c => attach c acc) []).reverse

/-! ## Putting together -/

def join? (a b : Char) : Option Char :=
  match syllable? a.toNat b.toNat with
  | some n => some (Char.ofNat n)
  | none =>
    (pairs.find? fun (_, x, y) => x = a.toNat && y = b.toNat).map fun (c, _, _) => Char.ofNat c

/-- The composed form of a character that marks stand on, with the marks behind it that stay (the
last one first) and the text after them. A mark is joined unless one of its class or a higher one
stays before it. -/
def composeFrom (base : Char) (marks : List Char) : List Char → List Char
  | [] => base :: marks.reverse
  | c :: r =>
    let isFree := match marks with
      | [] => true
      | m :: _ => classOf m < classOf c
    match if isFree then join? base c else none with
    | some d => composeFrom d marks r
    | none =>
      if classOf c = 0 then base :: (marks.reverse ++ composeFrom c [] r)
      else composeFrom base (c :: marks) r

/-- The composed form of a text that is taken apart and sorted. -/
def compose : List Char → List Char
  | [] => []
  | c :: r => if classOf c = 0 then composeFrom c [] r else c :: compose r

end ServiceDoc.Text.Composition

namespace ServiceDoc.Text

def isComposed (cs : List Char) : Bool :=
  !cs.any (Composition.replacedCodes.contains ·.toNat) &&
    Composition.compose (Composition.sortMarks (Composition.decompose cs)) == cs

end ServiceDoc.Text
