/-!
# Sets of code points

Properties of characters are sets with hundreds of ranges. A table module writes such a set as
lines of text, its ranges in hexadecimal in ascending order; here the lines are read once, and
membership is a binary search.
-/

namespace ServiceDoc

/-- A set of code points: closed ranges in ascending order. -/
structure CodeSet where
  ranges : Array (Nat × Nat)

namespace CodeSet

/-- The value of a hexadecimal digit in lower case; anything else counts as zero. -/
def digit (c : Char) : Nat :=
  if '0' ≤ c ∧ c ≤ '9' then c.toNat - 48 else if 'a' ≤ c ∧ c ≤ 'f' then c.toNat - 87 else 0

def number (word : String) : Nat := word.toList.foldl (fun n c => 16 * n + digit c) 0

/-- The range that a word writes: `a-b`, or `a` for a single code point. -/
def range (word : String) : Nat × Nat :=
  match word.splitOn "-" with
  | [a, b] => (number a, number b)
  | _ => (number word, number word)

/-- The words of a table that is written in several lines. -/
def words (lines : List String) : List String := lines.flatMap (·.splitOn " ")

def ofLines (lines : List String) : CodeSet := ⟨((words lines).map range).toArray⟩

/-- Whether a code point lies in one of the ranges from index `lo` up to, but not including,
`hi`. -/
def search (ranges : Array (Nat × Nat)) (n lo hi : Nat) : Bool :=
  if lo < hi then
    match ranges[(lo + hi) / 2]? with
    | none => false
    | some (a, b) =>
      if n < a then search ranges n lo ((lo + hi) / 2)
      else if b < n then search ranges n ((lo + hi) / 2 + 1) hi
      else true
  else false
termination_by hi - lo

def contains (s : CodeSet) (n : Nat) : Bool := search s.ranges n 0 s.ranges.size

def range? (s : CodeSet) (n : Nat) : Option (Nat × Nat) :=
  s.ranges.find? fun (a, b) => a ≤ n && n ≤ b

end CodeSet

end ServiceDoc
