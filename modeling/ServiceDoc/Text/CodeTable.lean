import ServiceDoc.Text.CodeSet
/-!
# Numbers of code points

Where a property of characters is a number, its table is a set of ranges with a number each. A table
module writes such a range as `a-b:v`, in hexadecimal.
-/

namespace ServiceDoc

/-- Ranges of code points, each with a number. -/
structure CodeTable where
  runs : Array (Nat × Nat × Nat)

namespace CodeTable

/-- The range that a word writes, with its number. -/
def runOf (word : String) : Nat × Nat × Nat :=
  match word.splitOn ":" with
  | [range, value] => let (a, b) := CodeSet.range range; (a, b, CodeSet.number value)
  | _ => (0, 0, 0)

def ofLines (lines : List String) : CodeTable := ⟨((CodeSet.words lines).map runOf).toArray⟩

/-- The beginning of the range that a code point lies in, and the range's number. -/
def find? (t : CodeTable) (n : Nat) : Option (Nat × Nat) :=
  (t.runs.find? fun (a, b, _) => a ≤ n && n ≤ b).map fun (a, _, value) => (a, value)

end CodeTable

end ServiceDoc
