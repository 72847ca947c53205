import ServiceDoc.Json.Basic
/-!
# JSON text

Two ways to write a value: `compact` without any blank, and `indented` with two blanks a level,
each item of a collection on a line of its own. Both write ASCII only: a character outside
U+0020 to U+007E is written as the escapes of its UTF-16 units, unless a short escape exists.
-/

namespace ServiceDoc.Json

/-- The digit of a number below sixteen, in lower case. -/
def hexDigit (n : Nat) : Char :=
  if n < 10 then Char.ofNat (48 + n) else Char.ofNat (87 + n)

/-- The `\u` escape of a UTF-16 unit. -/
def unitEscape (unit : Nat) : List Char :=
  ['\\', 'u', hexDigit (unit / 4096 % 16), hexDigit (unit / 256 % 16), hexDigit (unit / 16 % 16),
    hexDigit (unit % 16)]

/-- The UTF-16 units of a character: one, or a surrogate pair above U+FFFF. -/
def units (c : Char) : List Nat :=
  if c.toNat < 0x10000 then [c.toNat]
  else [0xD800 + (c.toNat - 0x10000) / 1024, 0xDC00 + (c.toNat - 0x10000) % 1024]

/-- How a character stands inside a quoted text. -/
def escape (c : Char) : List Char :=
  if c = '\x22' then ['\\', '\x22']
  else if c = '\\' then ['\\', '\\']
  else if c = '\n' then ['\\', 'n']
  else if c = '\r' then ['\\', 'r']
  else if c = '\t' then ['\\', 't']
  else if c = '\x08' then ['\\', 'b']
  else if c = '\x0c' then ['\\', 'f']
  else if 0x20 ≤ c.toNat ∧ c.toNat ≤ 0x7E then [c]
  else (units c).flatMap unitEscape

def quoted (s : String) : List Char := '\x22' :: (s.toList.flatMap escape ++ ['\x22'])

/-- An integer in decimal, a minus sign before a negative one. -/
def decimal : Int → List Char
  | .ofNat n => Nat.toDigits 10 n
  | .negSucc n => '-' :: Nat.toDigits 10 (n + 1)

mutual
def compact : Json → List Char
  | .null => ['n', 'u', 'l', 'l']
  | .bool true => ['t', 'r', 'u', 'e']
  | .bool false => ['f', 'a', 'l', 's', 'e']
  | .int n => decimal n
  | .str s => quoted s
  | .arr items => '[' :: (compactItems items ++ [']'])
  | .obj members => '\x7b' :: (compactMembers members ++ ['\x7d'])

def compactItems : List Json → List Char
  | [] => []
  | [v] => compact v
  | v :: rest => compact v ++ ',' :: compactItems rest

def compactMembers : List (String × Json) → List Char
  | [] => []
  | [(k, v)] => quoted k ++ ':' :: compact v
  | (k, v) :: rest => quoted k ++ ':' :: (compact v ++ ',' :: compactMembers rest)
end

def margin (level : Nat) : List Char := List.replicate (2 * level) ' '

mutual
/-- A value whose collections are spread over lines; `level` is that of the line it starts on. -/
def indented (level : Nat) : Json → List Char
  | .null => ['n', 'u', 'l', 'l']
  | .bool true => ['t', 'r', 'u', 'e']
  | .bool false => ['f', 'a', 'l', 's', 'e']
  | .int n => decimal n
  | .str s => quoted s
  | .arr [] => ['[', ']']
  | .arr (v :: rest) =>
    '[' :: '\n' :: (indentedItems (level + 1) (v :: rest) ++ '\n' :: (margin level ++ [']']))
  | .obj [] => ['\x7b', '\x7d']
  | .obj (m :: rest) =>
    '\x7b' :: '\n' ::
      (indentedMembers (level + 1) (m :: rest) ++ '\n' :: (margin level ++ ['\x7d']))

/-- The items of an array, one a line. -/
def indentedItems (level : Nat) : List Json → List Char
  | [] => []
  | [v] => margin level ++ indented level v
  | v :: rest => margin level ++ (indented level v ++ ',' :: '\n' :: indentedItems level rest)

/-- The members of an object, one a line. -/
def indentedMembers (level : Nat) : List (String × Json) → List Char
  | [] => []
  | [(k, v)] => margin level ++ (quoted k ++ ':' :: ' ' :: indented level v)
  | (k, v) :: rest =>
    margin level ++
      (quoted k ++ ':' :: ' ' :: (indented level v ++ ',' :: '\n' :: indentedMembers level rest))
end

def compactText (v : Json) : String := String.ofList v.compact

/-- The text of a document file: the indented value and a line end. -/
def documentText (v : Json) : String := String.ofList (v.indented 0 ++ ['\n'])

end ServiceDoc.Json
