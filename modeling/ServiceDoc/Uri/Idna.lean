import ServiceDoc.Text.LowerCase
import ServiceDoc.Uri.Label
import ServiceDoc.Uri.Punycode
/-!
# Internationalized host names

A host name in any script, as the network knows it: each label that is not ASCII is written in
Punycode behind a mark.
-/

namespace ServiceDoc.Uri.Idna

def mark : List Char := ['x', 'n', '-', '-']

def isDot (c : Char) : Bool := c = '.' || c = '\u3002' || c = '\uff0e' || c = '\uff61'

def isAscii (cs : List Char) : Bool := cs.all (·.toNat < 0x80)

/-- The most characters that the network allows in a label. -/
def maxLabel : Nat := 63

/-- The most characters that the network allows in a host name without a dot at its end. -/
def maxHost : Nat := 253

def fullLabel? (label : List Char) : Option (List Char) :=
  if isAscii label && label.take 4 = mark then
    if label.getLast? = some '-' then none else Punycode.decode? (label.drop 4)
  else some label

def encodeLabel? (label : List Char) : Option (List Char) :=
  match fullLabel? label with
  | none => none
  | some full =>
    let written := if isAscii label then label else mark ++ Punycode.encode label
    if Label.isLabel full && written.length ≤ maxLabel then some written else none

/-- The labels of a host name, and whether a dot follows them. -/
def splitLabels (host : List Char) : List (List Char) × Bool :=
  let labels := host.splitOnP isDot
  if labels.getLast? = some [] then (labels.dropLast, true) else (labels, false)

/-- Whether the labels of a host name as the network writes it are labels in full. -/
def isDecodable (host : List Char) : Bool :=
  (splitLabels host).1.all fun label =>
    match fullLabel? label with
    | none => false
    | some full => Label.isLabel full

def encode? (host : List Char) : Option (List Char) :=
  if maxHost + 1 < host.length then none
  else
    let (labels, isClosed) := splitLabels (Text.lowerCase host)
    match labels.mapM encodeLabel? with
    | none => none
    | some labels =>
      let name := ['.'].intercalate labels
      if labels.isEmpty || maxHost < name.length then none
      else some (if isClosed then name ++ ['.'] else name)

end ServiceDoc.Uri.Idna
