import ServiceDoc.Text.Utf8
/-!
# Percent codes

Characters that have no place in a component of an address are written as the percent codes of their
UTF-8 bytes. A percent sign is left alone wherever it stands, so codes that are there already stay
as they are.
-/

namespace ServiceDoc.Uri

def upperHexDigit (n : Nat) : Char := Char.ofNat (if n < 10 then 48 + n else 55 + n)

def percentByte (b : UInt8) : List Char :=
  ['%', upperHexDigit (b.toNat / 16), upperHexDigit (b.toNat % 16)]

/-- A text with percent codes for all but the safe characters. -/
def percentEncode (isSafe : Char → Bool) (cs : List Char) : List Char :=
  cs.flatMap fun c => if isSafe c then [c] else (Text.utf8 [c]).flatMap percentByte

def hexDigit? (c : Char) : Option UInt8 :=
  if '0' ≤ c ∧ c ≤ '9' then some (c.toNat - 48).toUInt8
  else if 'a' ≤ c ∧ c ≤ 'f' then some (c.toNat - 87).toUInt8
  else if 'A' ≤ c ∧ c ≤ 'F' then some (c.toNat - 55).toUInt8
  else none

/-- The bytes that an ASCII text stands for. A percent sign without two digits stands for
itself. -/
def percentBytes : List Char → List UInt8
  | [] => []
  | '%' :: a :: b :: r =>
    match hexDigit? a, hexDigit? b with
    | some x, some y => (x * 16 + y) :: percentBytes r
    | _, _ => '%'.toUInt8 :: percentBytes (a :: b :: r)
  | c :: r => c.toUInt8 :: percentBytes r

/-- The text that a text with percent codes stands for; `run` holds the ASCII characters before, the
last one first. Codes next to each other are read as one sequence of bytes, and characters outside
ASCII part such sequences. -/
def percentDecodeFrom (run : List Char) : List Char → List Char
  | [] => Text.replaceInvalid (percentBytes run.reverse)
  | c :: r =>
    if c.toNat < 0x80 then percentDecodeFrom (c :: run) r
    else Text.replaceInvalid (percentBytes run.reverse) ++ c :: percentDecodeFrom [] r

def percentDecode (cs : List Char) : List Char := percentDecodeFrom [] cs

/-- Unreserved characters: letters, digits and four marks. -/
def isUnreserved (c : Char) : Bool :=
  c.isAlphanum || c = '-' || c = '.' || c = '_' || c = '~'

def isGraphicBut (excluded : List Char) (c : Char) : Bool :=
  0x20 < c.toNat && c.toNat < 0x7F && !excluded.contains c

/-- What a path may hold. -/
def isPathSafe (c : Char) : Bool :=
  isGraphicBut ['\x22', '#', '<', '>', '?', '\x60', '\x7b', '\x7d'] c

/-- What a query may hold. -/
def isQuerySafe (c : Char) : Bool := isGraphicBut ['\x22', '#', '<', '>'] c

/-- What a fragment may hold. -/
def isFragmentSafe (c : Char) : Bool := isGraphicBut ['\x22', '<', '>', '\x60'] c

/-- What the user information may hold. -/
def isUserSafe (c : Char) : Bool :=
  isPathSafe c && !"/;=@[\\]^|".toList.contains c

/-- What the name of a host may hold. -/
def isHostSafe (c : Char) : Bool :=
  isUnreserved c || "!$&'()*+,;=".toList.contains c
    || ['\x22', '\x60', '\x7b', '\x7d', '%', '|', '\\'].contains c

end ServiceDoc.Uri
