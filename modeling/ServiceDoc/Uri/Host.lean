import ServiceDoc.Uri.Percent
/-!
# Numeric hosts

Hosts that are addresses of the internet protocol, of either version, and the texts that pass for
one and have to be right.
-/

namespace ServiceDoc.Uri

/-! ## Version 4 -/

/-- The parts of a text between the places of a separator. -/
def splitAt (separator : Char) (cs : List Char) : List (List Char) :=
  cs.splitOn separator

/-- Whether a text is a decimal number up to 255 without leading zeros. -/
def isOctet (cs : List Char) : Bool :=
  !cs.isEmpty && cs.all Char.isDigit && cs.length ≤ 3 && (cs = ['0'] || cs.head? ≠ some '0')
    && cs.foldl (fun n c => 10 * n + (c.toNat - 48)) 0 ≤ 255

def isIpv4 (cs : List Char) : Bool :=
  let parts := splitAt '.' cs
  parts.length = 4 && parts.all isOctet

/-- The stages of matching four runs of digits with any one character between each two: `2n` where a
run begins, `2n + 1` inside it. -/
def dottedStages (c : Char) (stages : List Nat) : List Nat :=
  (stages.flatMap fun n =>
    if n % 2 = 0 then if c.isDigit then [n + 1] else []
    else (if c.isDigit then [n] else []) ++ (if n < 7 then [n + 1] else [])).eraseDups

/-- Whether a text looks like an address of version 4: four runs of digits with any one character
between each two. -/
def looksIpv4 (cs : List Char) : Bool :=
  (cs.foldl (fun stages c => dottedStages c stages) [0]).contains 7

/-! ## Version 6 -/

/-- Whether a text is a group of an address: one to four hexadecimal digits. -/
def isHextet (cs : List Char) : Bool :=
  !cs.isEmpty && cs.length ≤ 4 && cs.all fun c => (hexDigit? c).isSome

/-- The groups of an address, with two made of a trailing address of version 4; `none` if that is
wrong. -/
def hextets? (cs : List Char) : Option (List (List Char)) :=
  let parts := splitAt ':' cs
  if parts.length < 3 then none
  else
    match parts.getLast? with
    | none => none
    | some last =>
      if last.contains '.' then
        if isIpv4 last then some (parts.dropLast ++ [['0'], ['0']]) else none
      else some parts

/-- The number of groups on one side of the gap; `none` if the address begins or ends with a single
colon, or if a group is wrong. -/
def sideLength? (parts : List (List Char)) : Option Nat :=
  if parts = [[]] then some 0
  else if parts.all isHextet then some parts.length
  else none

/-- Whether a text without a zone is an address of version 6: eight groups, or fewer with one gap
for the missing ones. -/
def isIpv6Groups (cs : List Char) : Bool :=
  match hextets? cs with
  | none => false
  | some parts =>
    if 9 < parts.length then false
    else
      let middle := parts.tail.dropLast
      match middle.findIdx? List.isEmpty with
      | none => parts.length = 8 && parts.all isHextet
      | some i =>
        if (middle.drop (i + 1)).any List.isEmpty then false
        else
          match sideLength? (parts.take (i + 1)), sideLength? (parts.drop (i + 2)) with
          | some a, some b => a + b ≤ 7
          | _, _ => false

/-- Whether a text is an address of version 6. A percent sign begins a zone, whose name may be any
text without another one. -/
def isIpv6 (cs : List Char) : Bool :=
  if cs.contains '/' then false
  else
    match cs.span (· ≠ '%') with
    | (groups, []) => isIpv6Groups groups
    | (groups, _ :: zone) => !zone.isEmpty && !zone.contains '%' && isIpv6Groups groups

end ServiceDoc.Uri
