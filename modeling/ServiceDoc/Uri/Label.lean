import ServiceDoc.Text.Composition
import ServiceDoc.Uri.LabelTable
/-!
# Labels

A label is the part of a host name between two dots. In its full script it is composed text of the
characters that names are made of, with rules for hyphens, for the neighbours of a few special
characters, and for labels in which some character is written from right to left.
-/

namespace ServiceDoc.Uri.Label

/-! ## Neighbours -/

/-- The combining class of the marks that take a consonant's vowel away. -/
def virama : Nat := 9

/-- Whether a text, the last character first, ends with a mark that takes the vowel away. -/
def endsInVirama : List Char → Bool
  | c :: _ => Text.Composition.classOf c = virama
  | [] => false

def joinsNext (c : Char) : Bool :=
  leftJoiningCodes.contains c.toNat || dualJoiningCodes.contains c.toNat

def joinsPrevious (c : Char) : Bool :=
  rightJoiningCodes.contains c.toNat || dualJoiningCodes.contains c.toNat

/-- Whether the texts on both sides of a place would join there; the last character before it comes
first. -/
def isJoint (before after : List Char) : Bool :=
  let isPassed (c : Char) := transparentCodes.contains c.toNat
  match before.dropWhile isPassed, after.dropWhile isPassed with
  | a :: _, b :: _ => joinsNext a && joinsPrevious b
  | _, _ => false

def beginsIn (s : CodeSet) : List Char → Bool
  | c :: _ => s.contains c.toNat
  | [] => false

def isArabicDigit (c : Char) : Bool := '\u0660' ≤ c && c ≤ '\u0669'

/-- An Arabic digit in the form that Persian and Urdu use. -/
def isPersianDigit (c : Char) : Bool := '\u06f0' ≤ c && c ≤ '\u06f9'

/-- Whether a character may stand between two texts, of which the first has its last character
first. -/
def isPlaced (before : List Char) (c : Char) (after : List Char) : Bool :=
  if validCodes.contains c.toNat then true
  else if c = '\u200c' then endsInVirama before || isJoint before after
  else if c = '\u200d' then endsInVirama before
  else if c = '\u00b7' then before.head? = some 'l' && after.head? = some 'l'
  else if c = '\u0375' then beginsIn greekCodes after
  else if c = '\u05f3' || c = '\u05f4' then beginsIn hebrewCodes before
  else if c = '\u30fb' then (before ++ after).any (kanaCodes.contains ·.toNat)
  else if isArabicDigit c then !(before ++ after).any isPersianDigit
  else if isPersianDigit c then !(before ++ after).any isArabicDigit
  else false

/-- Whether each character of a text may stand where it does, behind a text whose last character
comes first. -/
def allPlaced (before : List Char) : List Char → Bool
  | [] => true
  | c :: r => isPlaced before c r && allPlaced (c :: before) r

/-! ## Directions -/

/-- What a character says about the direction of a line. -/
inductive Direction where
  | left
  | right
  | digit
  | arabicDigit
  /-- The direction of the character before it. -/
  | attached
  | neutral
  deriving DecidableEq, BEq

def direction (c : Char) : Direction :=
  if rightCodes.contains c.toNat then .right
  else if digitCodes.contains c.toNat then .digit
  else if arabicDigitCodes.contains c.toNat then .arabicDigit
  else if attachedCodes.contains c.toNat then .attached
  else if neutralCodes.contains c.toNat then .neutral
  else .left

/-- Whether characters with those directions are shown in one order only. A label that has anything
to be written from right to left begins so, has nothing for the other direction and digits of one
kind only, and does not end with a neutral character. -/
def isOneWay (ds : List Direction) : Bool :=
  if ds.contains .right || ds.contains .arabicDigit then
    ds.head? = some .right && !ds.contains .left &&
      !(ds.contains .digit && ds.contains .arabicDigit) &&
      ds.reverse.find? (· ≠ .attached) ≠ some .neutral
  else true

/-! ## Labels -/

/-- Whether the hyphens of a text are where a label may have them: not at its ends, and not two in
the third and the fourth place. -/
def hasPlainHyphens (cs : List Char) : Bool :=
  cs.head? ≠ some '-' && cs.getLast? ≠ some '-' && (cs.drop 2).take 2 ≠ ['-', '-']

def isLabel (cs : List Char) : Bool :=
  !cs.isEmpty && hasPlainHyphens cs && !beginsIn markCodes cs && allPlaced [] cs &&
    isOneWay (cs.map direction) && Text.isComposed cs

end ServiceDoc.Uri.Label
