import ServiceDoc.Xml.Fault
/-!
# The declaration at the head

A document may begin with `<?xml … ?>`: its version, its encoding and whether it is standalone, in
this order, each written like an attribute. A fault is reported at the first symbol that does not
fit.
-/

namespace ServiceDoc.Xml

/-- What a head declares. -/
structure Heading where
  /-- The name of the encoding, and the document from that name on. -/
  encoding? : Option (List Char × List Symbol) := none
  standalone : Bool := false

structure HeadingItem where
  name : List Char
  nameAt : List Symbol
  value : List Char
  valueAt : List Symbol

namespace Heading

def isEnd : List Symbol → Bool
  | .char '?' _ :: .char '>' _ :: _ => true
  | _ => false

/-- The name of a property up to a blank or an equals sign; `acc` holds the characters so far, the
last one first. The end of the head and characters outside ASCII do not fit. -/
def itemName (acc : List Char) : List Symbol → Except (List Symbol) (List Char × List Symbol)
  | .char '?' a :: .char '>' b :: r => .error (.char '?' a :: .char '>' b :: r)
  | .char c role :: r =>
    if 0x80 ≤ c.toNat then .error (.char c role :: r)
    else if c = '=' ∨ Symbol.isBlank (.char c role) then .ok (acc.reverse, .char c role :: r)
    else itemName (c :: acc) r
  | s => .error s

/-- The value of a property up to its closing quote, which is consumed. -/
def itemValue (quote : Char) (acc : List Char) :
    List Symbol → Except (List Symbol) (List Char × List Symbol)
  | .char c role :: r =>
    if c = quote then .ok (acc.reverse, r)
    else if c.isAlphanum ∨ c = '.' ∨ c = '-' ∨ c = '_' then itemValue quote (c :: acc) r
    else .error (.char c role :: r)
  | s => .error s

/-- The next property, if there is one; a fault is the place of what does not fit. -/
def nextItem? (s : List Symbol) : Except (List Symbol) (Option HeadingItem × List Symbol) :=
  if isEnd s then .ok (none, s)
  else
    let t := skipBlanks s
    if t.length = s.length then .error s
    else if isEnd t then .ok (none, s)
    else
      match itemName [] t with
      | .error u => .error u
      | .ok (name, u) =>
        match skipBlanks u with
        | .char '=' role :: v =>
          if name.isEmpty then .error (.char '=' role :: v)
          else
            match skipBlanks v with
            | .char q role :: w =>
              if q = '\x22' ∨ q = '\x27' then
                match itemValue q [] w with
                | .error x => .error x
                | .ok (value, x) => .ok (some ⟨name, t, value, w⟩, x)
              else .error (.char q role :: w)
            | w => .error w
        | v => .error v

/-- Reads a head from behind its opening `<?xml` on. -/
def read (s : List Symbol) : Except (List Symbol) Heading :=
  match nextItem? s with
  | .error t => .error t
  | .ok (none, t) => .error t
  | .ok (some version, t) =>
    if version.name ≠ "version".toList then .error version.nameAt
    else
      match nextItem? t with
      | .error u => .error u
      | .ok (none, _) => .ok {}
      | .ok (some item, u) =>
        if item.name = "encoding".toList then
          if (item.value.head?.map Char.isAlpha).getD false then
            match nextItem? u with
            | .error v => .error v
            | .ok (none, _) => .ok { encoding? := some (item.value, item.valueAt) }
            | .ok (some last, v) => readStandalone (some (item.value, item.valueAt)) last v
          else .error item.valueAt
        else readStandalone none item u
where
  /-- The last property: nothing but blanks may follow it. -/
  readStandalone (encoding? : Option (List Char × List Symbol)) (item : HeadingItem)
      (s : List Symbol) : Except (List Symbol) Heading :=
    if item.name ≠ "standalone".toList then .error item.nameAt
    else if item.value = "yes".toList ∨ item.value = "no".toList then
      if isEnd (skipBlanks s) then .ok ⟨encoding?, item.value = "yes".toList⟩
      else .error (skipBlanks s)
    else .error item.valueAt

end Heading

end ServiceDoc.Xml
