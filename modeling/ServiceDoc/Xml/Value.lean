import ServiceDoc.Xml.Dtd
import ServiceDoc.Xml.Fault
/-!
# Values

What the value of an attribute stands for: references are replaced, blanks become spaces, and in a
list of tokens single spaces separate. The text of an entity is read the same way, without the
entity itself, so no chain of references is longer than the list of entities.

A wrong character or a wrong reference is reported where it stands, if that is the document itself;
all else is reported where the enclosing token starts.
-/

namespace ServiceDoc.Xml

/-- A value with one more character; `acc` holds its characters, the last one first. In a list of
tokens no space is added at the beginning or after another one. -/
def pushSpace (tokenized : Bool) (acc : List Char) : List Char :=
  if tokenized && (acc.head?.getD ' ' = ' ') then acc else ' ' :: acc

/-- The characters of a value before those in `acc`, which holds them with the last one first.
`start` is the enclosing token, and `place` tells where in the document a symbol of the value
stands. -/
def readValue (dtd : Dtd) (tokenized : Bool) (start : List Symbol)
    (avail : List Entity) (place : List Symbol → List Symbol) (acc : List Char)
    (s : List Symbol) : Except Fault (List Char) :=
  match s with
  | [] => .ok acc
  | .char '\r' _ :: .char '\n' _ :: r =>
    readValue dtd tokenized start avail place (pushSpace tokenized acc) r
  | .char '&' role :: r =>
    match _hx : scanReference r with
    | .error (.invalid rest) => .error ⟨.invalidToken, place rest⟩
    | .error _ => .error ⟨.invalidToken, place (.char '&' role :: r)⟩
    | .ok (.char none, _) => .error ⟨.invalidCharacterNumber, place (.char '&' role :: r)⟩
    | .ok (.char (some c), r') =>
      readValue dtd tokenized start avail place
        (if c = ' ' then pushSpace tokenized acc else c :: acc) r'
    | .ok (.entity name, r') =>
      match predefinedEntity? name with
      | some c => readValue dtd tokenized start avail place (c :: acc) r'
      | none =>
        match _he : avail.find? (·.name = name) with
        | some ⟨_, .text cs⟩ =>
          match readValue dtd tokenized start (withoutEntity name avail) (fun _ => start) acc
              (cs.map Symbol.ofChar) with
          | .error f => .error f
          | .ok acc => readValue dtd tokenized start avail place acc r'
        | some ⟨_, .external⟩ => .error ⟨.externalInAttribute, place (.char '&' role :: r)⟩
        | some ⟨_, .unparsed⟩ => .error ⟨.binaryEntity, place (.char '&' role :: r)⟩
        | none =>
          if dtd.entities.any (·.name = name) then .error ⟨.recursiveEntity, start⟩
          else if dtd.isComplete then .error ⟨.undefinedEntity, start⟩
          else readValue dtd tokenized start avail place acc r'
  | .char c role :: r =>
    if c = '<' then .error ⟨.invalidToken, place (.char c role :: r)⟩
    else if c = ' ' ∨ c = '\t' ∨ c = '\n' ∨ c = '\r' then
      readValue dtd tokenized start avail place (pushSpace tokenized acc) r
    else readValue dtd tokenized start avail place (c :: acc) r
  | s => .error ⟨.invalidToken, place s⟩
termination_by (avail.length, s.length)
decreasing_by
  all_goals first
    | exact Prod.Lex.left _ _ (length_withoutEntity_lt _he)
    | (apply Prod.Lex.right
       have := length_scanReference_lt _hx
       simp only [List.length_cons]
       omega)
    | (apply Prod.Lex.right
       simp only [List.length_cons]
       omega)

/-- The value that is written between two quotes in the token that starts at `start`; `valueEnd` is
the document from the closing quote on. -/
def expandValue (dtd : Dtd) (tokenized : Bool) (start value valueEnd : List Symbol) :
    Except Fault (List Char) :=
  match readValue dtd tokenized start dtd.entities (· ++ valueEnd) [] value with
  | .error f => .error f
  | .ok acc =>
    .ok (if tokenized && acc.head? = some ' ' then acc.tail.reverse else acc.reverse)

end ServiceDoc.Xml
