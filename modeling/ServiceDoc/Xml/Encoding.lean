import ServiceDoc.Text.CodePage
import ServiceDoc.Xml.Symbol
/-!
# Encodings

How the bytes of a document become symbols. Every encoding reads all inputs: where the bytes encode
no character there is a symbol that says so, and reading stops with a fault only if it gets there.
-/

namespace ServiceDoc.Xml

inductive ByteOrder where
  | bigEndian
  | littleEndian
  deriving DecidableEq, Repr

inductive Encoding where
  | utf8
  | utf16 (order : ByteOrder)
  | latin1
  | ascii
  | page (p : CodePage)

namespace Encoding

/-- The role of a character that an encoding older than the rules for names has below U+0100: it
counts the two ordinal indicators and the micro sign as letters. -/
def latinRole (c : Char) : NameRole :=
  if c.toNat = 0xAA ∨ c.toNat = 0xB5 ∨ c.toNat = 0xBA then .start else .of c

def latinSymbol (c : Char) : Symbol := if isLegal c then .char c (latinRole c) else .malformed

def charSymbol (n : Nat) : Symbol :=
  if h : n.isValidChar then .ofChar (Char.ofNatAux n h) else .malformed

def isTrail (b : UInt8) : Bool := 0x80 ≤ b && b < 0xC0

def trailBits (b : UInt8) : Nat := b.toNat % 64

/-- The number of bytes of the character that a byte begins; one if it begins none of several. -/
def utf8Length (b : UInt8) : Nat :=
  if 0xC0 ≤ b ∧ b < 0xE0 then 2
  else if 0xE0 ≤ b ∧ b < 0xF0 then 3
  else if 0xF0 ≤ b ∧ b ≤ 0xF4 then 4
  else 1

def utf8Two (a b : UInt8) : Symbol :=
  if 0xC2 ≤ a ∧ isTrail b then charSymbol (a.toNat % 32 * 64 + trailBits b) else .malformed

/-- The symbol of three bytes; surrogates and overlong forms are no characters. -/
def utf8Three (a b c : UInt8) : Symbol :=
  let n := (a.toNat % 16 * 64 + trailBits b) * 64 + trailBits c
  if isTrail b ∧ isTrail c ∧ 0x800 ≤ n then charSymbol n else .malformed

def utf8Four (a b c d : UInt8) : Symbol :=
  let n := ((a.toNat % 8 * 64 + trailBits b) * 64 + trailBits c) * 64 + trailBits d
  if isTrail b ∧ isTrail c ∧ isTrail d ∧ 0x10000 ≤ n then charSymbol n else .malformed

/-- Reads UTF-8; `acc` holds the symbols so far, the last one first. -/
def decodeUtf8 (acc : List Symbol) : List UInt8 → List Symbol
  | [] => acc.reverse
  | a :: r =>
    match utf8Length a, r with
    | 2, b :: r => decodeUtf8 (utf8Two a b :: acc) r
    | 3, b :: c :: r => decodeUtf8 (utf8Three a b c :: acc) r
    | 4, b :: c :: d :: r => decodeUtf8 (utf8Four a b c d :: acc) r
    | 1, r =>
      decodeUtf8 ((if a < 0x80 then charSymbol a.toNat else .malformed) :: acc) r
    | _, _ => (.cut :: acc).reverse

def ByteOrder.unit (o : ByteOrder) (a b : UInt8) : Nat :=
  match o with
  | .bigEndian => a.toNat * 256 + b.toNat
  | .littleEndian => b.toNat * 256 + a.toNat

/-- Reads UTF-16; `acc` holds the symbols so far, the last one first. The unit after a high
surrogate counts as a low one, whatever it is. -/
def decodeUtf16 (o : ByteOrder) (acc : List Symbol) : List UInt8 → List Symbol
  | [] => acc.reverse
  | [_] => (.stray :: acc).reverse
  | a :: b :: r =>
    let u := ByteOrder.unit o a b
    if 0xD800 ≤ u ∧ u < 0xDC00 then
      match r with
      | c :: d :: r =>
        let n := 0x10000 + (u - 0xD800) * 1024 + ByteOrder.unit o c d % 1024
        decodeUtf16 o (.char (Char.ofNat n) .other :: acc) r
      | _ => (.cut :: acc).reverse
    else if u < 0x100 then decodeUtf16 o (latinSymbol (Char.ofNat u) :: acc) r
    else decodeUtf16 o (charSymbol u :: acc) r

def decode (e : Encoding) (bytes : List UInt8) : List Symbol :=
  match e with
  | utf8 => decodeUtf8 [] bytes
  | utf16 o => decodeUtf16 o [] bytes
  | latin1 => bytes.map fun b => latinSymbol (Char.ofNat b.toNat)
  | ascii => bytes.map fun b => if b < 0x80 then charSymbol b.toNat else .malformed
  | page p => bytes.map fun b =>
    match p.char? b with
    | some c => .ofChar c
    | none => .malformed

def unitSize : Encoding → Nat
  | utf16 _ => 2
  | _ => 1

/-! ## Detection -/

/-- What the first bytes of a document tell. -/
structure Detection where
  encoding : Encoding
  /-- The bytes of the byte order mark. -/
  markSize : Nat := 0

/-- The encoding that the first bytes of a document show; `none` if there are too few of them. -/
def detect? : List UInt8 → Option Detection
  | [] => some ⟨utf8, 0⟩
  | [b] => if b = 0xFE ∨ b = 0xFF ∨ b = 0xEF ∨ b = 0x00 ∨ b = 0x3C then none else some ⟨utf8, 0⟩
  | [0xEF, 0xBB] => none
  | a :: b :: r =>
    if a = 0xFE ∧ b = 0xFF then some ⟨utf16 .bigEndian, 2⟩
    else if a = 0xFF ∧ b = 0xFE then some ⟨utf16 .littleEndian, 2⟩
    else if a = 0xEF ∧ b = 0xBB ∧ r.head? = some 0xBF then some ⟨utf8, 3⟩
    else if a = 0 then some ⟨utf16 .bigEndian, 0⟩
    else if b = 0 then some ⟨utf16 .littleEndian, 0⟩
    else some ⟨utf8, 0⟩

/-! ## Declared names -/

/-- What a declared name stands for. -/
inductive Declared where
  /-- UTF-16 in the byte order of the document. -/
  | anyUtf16
  | known (e : Encoding)
  /-- A name that only the tables may know. -/
  | other

/-- The encoding of a declared name; letter case does not matter. -/
def Declared.of (name : String) : Declared :=
  match name.map Char.toUpper with
  | "UTF-8" => known .utf8
  | "UTF-16" => anyUtf16
  | "UTF-16BE" => known (.utf16 .bigEndian)
  | "UTF-16LE" => known (.utf16 .littleEndian)
  | "ISO-8859-1" => known .latin1
  | "US-ASCII" => known .ascii
  | _ => other

/-- Why a name leads to no table. -/
inductive CharsetFault where
  | unknown (name : String)
  /-- The name of a transformation that does not encode text. -/
  | notText (name : String)
  /-- An encoding whose characters may take several bytes. -/
  | wide
  /-- An encoding that cannot be tried out on single bytes. -/
  | unusable (name reason : String)
  /-- An encoding that refuses to be tried out on single bytes. -/
  | refused (reason : String)
  /-- A table whose bytes below 128 are not those of ASCII. -/
  | foreign
  deriving DecidableEq, Repr

def CharsetFault.message : CharsetFault → String
  | unknown name => "unknown encoding: " ++ name
  | notText name =>
    "'" ++ name ++ "' is not a text encoding; use codecs.decode() to handle arbitrary codecs"
  | wide => "multi-byte encodings are not supported"
  | unusable name reason => "decoding with '" ++ name ++ "' codec failed (" ++ reason ++ ")"
  | refused reason => reason
  | foreign => "unknown encoding"

/-- A name in lower case, with one underscore for each run of characters that are no letters,
digits or dots; a run at the end is dropped. `pending` tells of a run that has begun. -/
def normalizeName (pending : Bool) : List Char → List Char
  | [] => []
  | c :: r =>
    if c.isAlphanum ∨ c = '.' then
      if pending then '_' :: c.toLower :: normalizeName false r
      else c.toLower :: normalizeName false r
    else normalizeName true r

def charset? (name : String) : Except CharsetFault CodePage :=
  let n := String.ofList (normalizeName false name.toList)
  let undotted := n.map fun c => if c = '.' then '_' else c
  let isIn (names : List String) : Bool := names.contains n || names.contains undotted
  match CodePage.all.find? fun p => p.isNamed n || p.isNamed undotted with
  | some p => .ok p
  | none =>
    if isIn CodePage.foreign then .error .foreign
    else if isIn CodePage.wide then .error .wide
    else if isIn CodePage.binary then .error (.notText name)
    else if n = "idna" then
      .error (.unusable name "UnicodeError: Unsupported error handling replace")
    else if n = "undefined" then .error (.unusable name "UnicodeError: undefined encoding")
    else if n = "punycode" then
      .error (.refused
        "'ascii' codec can't decode byte 0x80 in position 82: ordinal not in range(128)")
    else .error (.unknown name)

end Encoding

end ServiceDoc.Xml
