import ServiceDoc.Json.Basic
/-!
# Reading JSON

The inverse of the printers: any RFC 8259 text whose numbers are integers. Blanks are allowed
between tokens, escapes of surrogate pairs are joined, and an escape of a lone surrogate is refused,
as it stands for no character.

Every nested value is shorter than the text it stands in, so the length of the text is enough fuel.
-/

namespace ServiceDoc.Json

def isBlank (c : Char) : Bool := c = ' ' || c = '\t' || c = '\n' || c = '\r'

def hexValue? (c : Char) : Option Nat :=
  if '0' ≤ c ∧ c ≤ '9' then some (c.toNat - 48)
  else if 'a' ≤ c ∧ c ≤ 'f' then some (c.toNat - 87)
  else if 'A' ≤ c ∧ c ≤ 'F' then some (c.toNat - 55)
  else none

def unit? (a b c d : Char) : Option Nat := do
  let w ← hexValue? a
  let x ← hexValue? b
  let y ← hexValue? c
  let z ← hexValue? d
  return ((w * 16 + x) * 16 + y) * 16 + z

def shortEscape? (c : Char) : Option Char :=
  if c = '\x22' ∨ c = '\\' ∨ c = '/' then some c
  else if c = 'n' then some '\n'
  else if c = 'r' then some '\r'
  else if c = 't' then some '\t'
  else if c = 'b' then some '\x08'
  else if c = 'f' then some '\x0c'
  else none

/-- The text after an opening quote, with what follows the closing one; `acc` holds the characters
read so far, the last one first. -/
def readQuoted (acc : List Char) : List Char → Option (String × List Char)
  | [] => none
  | '\x22' :: rest => some (String.ofList acc.reverse, rest)
  | '\\' :: 'u' :: a :: b :: c :: d :: rest =>
    match unit? a b c d with
    | none => none
    | some high =>
      if 0xD800 ≤ high ∧ high < 0xDC00 then
        match rest with
        | '\\' :: 'u' :: e :: f :: g :: h :: rest =>
          match unit? e f g h with
          | none => none
          | some low =>
            if 0xDC00 ≤ low ∧ low < 0xE000 then
              readQuoted (Char.ofNat (0x10000 + (high - 0xD800) * 1024 + (low - 0xDC00)) :: acc)
                rest
            else none
        | _ => none
      else if 0xDC00 ≤ high ∧ high < 0xE000 then none
      else readQuoted (Char.ofNat high :: acc) rest
  | '\\' :: e :: rest =>
    match shortEscape? e with
    | none => none
    | some c => readQuoted (c :: acc) rest
  | c :: rest => if c.toNat < 0x20 ∨ c = '\\' then none else readQuoted (c :: acc) rest

def digitsValue (digits : List Char) : Nat :=
  digits.foldl (fun n c => 10 * n + (c.toNat - 48)) 0

/-- A natural number without a needless leading zero, and not followed by a fraction or exponent. -/
def readNat (s : List Char) : Option (Nat × List Char) :=
  let digits := s.takeWhile Char.isDigit
  let rest := s.dropWhile Char.isDigit
  match digits, rest with
  | [], _ => none
  | '0' :: _ :: _, _ => none
  | _, '.' :: _ => none
  | _, 'e' :: _ => none
  | _, 'E' :: _ => none
  | _, _ => some (digitsValue digits, rest)

mutual
/-- The value at the front of a text, blanks before it skipped, with what follows it. -/
def readValue : Nat → List Char → Option (Json × List Char)
  | 0, _ => none
  | fuel + 1, s =>
    match s.dropWhile isBlank with
    | 'n' :: 'u' :: 'l' :: 'l' :: rest => some (.null, rest)
    | 't' :: 'r' :: 'u' :: 'e' :: rest => some (.bool true, rest)
    | 'f' :: 'a' :: 'l' :: 's' :: 'e' :: rest => some (.bool false, rest)
    | '\x22' :: rest => (readQuoted [] rest).map fun (t, r) => (.str t, r)
    | '[' :: rest =>
      match rest.dropWhile isBlank with
      | ']' :: r => some (.arr [], r)
      | _ => readItems fuel [] rest
    | '\x7b' :: rest =>
      match rest.dropWhile isBlank with
      | '\x7d' :: r => some (.obj [], r)
      | _ => readMembers fuel [] rest
    | '-' :: rest => (readNat rest).map fun (n, r) => (.int (-(n : Int)), r)
    | c :: rest => (readNat (c :: rest)).map fun (n, r) => (.int n, r)
    | [] => none

/-- The items of an array up to its closing bracket; `acc` holds those read so far, the last one
first. -/
def readItems : Nat → List Json → List Char → Option (Json × List Char)
  | 0, _, _ => none
  | fuel + 1, acc, s =>
    match readValue fuel s with
    | none => none
    | some (v, rest) =>
      match rest.dropWhile isBlank with
      | ',' :: r => readItems fuel (v :: acc) r
      | ']' :: r => some (.arr (v :: acc).reverse, r)
      | _ => none

/-- The members of an object up to its closing brace; `acc` holds those read so far, the last one
first. -/
def readMembers : Nat → List (String × Json) → List Char → Option (Json × List Char)
  | 0, _, _ => none
  | fuel + 1, acc, s =>
    match s.dropWhile isBlank with
    | '\x22' :: rest =>
      match readQuoted [] rest with
      | none => none
      | some (k, rest) =>
        match rest.dropWhile isBlank with
        | ':' :: rest =>
          match readValue fuel rest with
          | none => none
          | some (v, rest) =>
            match rest.dropWhile isBlank with
            | ',' :: r => readMembers fuel ((k, v) :: acc) r
            | '\x7d' :: r => some (.obj ((k, v) :: acc).reverse, r)
            | _ => none
        | _ => none
    | _ => none
end

def read? (s : List Char) : Option Json :=
  match readValue (s.length + 1) s with
  | some (v, rest) => if rest.all isBlank then some v else none
  | none => none

end ServiceDoc.Json
