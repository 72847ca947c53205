import ServiceDoc.Xml.NameTable
/-!
# Symbols

What an encoding makes of the bytes of a document: characters, each with its role in names, or the
mark of a place where no character can be read. The readers of markup work on lists of symbols and
never look at bytes.

The role comes with the symbol, as the one encoding that is older than the rules for names
(ISO-8859-1) has three letters of its own.
-/

namespace ServiceDoc.Xml

/-- Where a character may stand in a name. -/
inductive NameRole where
  /-- At the beginning and inside. -/
  | start
  /-- Inside only. -/
  | inner
  /-- Nowhere. -/
  | other
  deriving DecidableEq, Repr

namespace NameRole

/-- The role of an ASCII character; a colon separates names and belongs to none. -/
def ofAscii (c : Char) : NameRole :=
  if c.isAlpha ∨ c = '_' then .start
  else if c.isDigit ∨ c = '-' ∨ c = '.' then .inner
  else .other

def of (c : Char) : NameRole :=
  if c.toNat < 0x80 then ofAscii c
  else if NameTable.letters.contains c.toNat then .start
  else if NameTable.followers.contains c.toNat then .inner
  else .other

end NameRole

/-- Whether a document may contain a character at all: no controls but the three blanks, and not
the two last code points of the basic plane. -/
def isLegal (c : Char) : Bool :=
  c = '\t' || c = '\n' || c = '\r' || (0x20 ≤ c.toNat && c.toNat != 0xFFFE && c.toNat != 0xFFFF)

inductive Symbol where
  /-- A character that may stand in a document. -/
  | char (c : Char) (role : NameRole)
  /-- An illegal character, or units that encode none. -/
  | malformed
  /-- The input ends inside a character. -/
  | cut
  /-- The input ends inside a unit. -/
  | stray
  deriving DecidableEq, Repr

namespace Symbol

def ofChar (c : Char) : Symbol := if isLegal c then .char c (.of c) else .malformed

def isBlank : Symbol → Bool
  | .char c _ => c = ' ' || c = '\t' || c = '\n' || c = '\r'
  | _ => false

end Symbol

def skipBlanks (s : List Symbol) : List Symbol := s.dropWhile Symbol.isBlank

theorem length_skipBlanks_le (s : List Symbol) : (skipBlanks s).length ≤ s.length :=
  (List.dropWhile_sublist _).length_le

end ServiceDoc.Xml
