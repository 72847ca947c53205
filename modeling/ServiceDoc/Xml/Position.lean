import ServiceDoc.Xml.Symbol
/-!
# Positions

Where in a document something is, as it is reported: lines count from one, and a line ends with a
line feed, a carriage return, or both; columns count the characters before.
-/

namespace ServiceDoc.Xml

structure Position where
  line : Nat := 1
  column : Nat := 0
  deriving DecidableEq, Repr

namespace Position

def advance (p : Position) : List Symbol → Position
  | [] => p
  | .char '\r' _ :: .char '\n' _ :: r => advance ⟨p.line + 1, 0⟩ r
  | .char c _ :: r =>
    if c = '\r' ∨ c = '\n' then advance ⟨p.line + 1, 0⟩ r else advance ⟨p.line, p.column + 1⟩ r
  | _ :: r => advance ⟨p.line, p.column + 1⟩ r

/-- The position in a document that has the symbols `rest` behind it. -/
def ofRest (document rest : List Symbol) : Position :=
  advance {} (document.take (document.length - rest.length))

end Position

end ServiceDoc.Xml
