import ServiceDoc.Text.Digit
/-!
# Numerals

Whole numbers as people type them: white space around, an optional sign, digits of any script, and
single underscores between digits. Numerals of more than 4300 digits are refused.
-/

namespace ServiceDoc.Text

/-- The digits of a numeral, with single underscores between them; `acc` holds the values so far,
the last one first. -/
def numeralDigits (acc : List Nat) : List Char → Option (List Nat)
  | [] => some acc.reverse
  | '_' :: c :: r =>
    match digitValue? c with
    | some d => if acc.isEmpty then none else numeralDigits (d :: acc) r
    | none => none
  | c :: r =>
    match digitValue? c with
    | some d => numeralDigits (d :: acc) r
    | none => none

def unsignedNumeral? (cs : List Char) : Option Nat :=
  match numeralDigits [] cs with
  | some (d :: ds) =>
    if (d :: ds).length ≤ 4300 then some ((d :: ds).foldl (fun n d => 10 * n + d) 0) else none
  | _ => none

def numeral? (cs : List Char) : Option Int :=
  match ((cs.dropWhile isWhite).reverse.dropWhile isWhite).reverse with
  | '-' :: r => (unsignedNumeral? r).map fun n => -(n : Int)
  | '+' :: r => (unsignedNumeral? r).map Int.ofNat
  | r => (unsignedNumeral? r).map Int.ofNat

end ServiceDoc.Text
