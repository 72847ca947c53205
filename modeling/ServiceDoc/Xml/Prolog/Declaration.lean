import ServiceDoc.Xml.Prolog.Lexeme
import ServiceDoc.Xml.Value
/-!
# Declarations of the prolog

The grammar of the prolog as an automaton: at each stage a few lexemes may follow, and the first one
that may not is a fault. Blanks may stand between any two lexemes. What a literal declares is worked
out where the literal stands, so a fault inside it comes before one behind it.

Of element declarations and declarations of notations only the form matters.
-/

namespace ServiceDoc.Xml

/-- Stages of the declaration of an entity. A parameter entity has no name that matters. -/
inductive EntityStage where
  | begin
  | parameterName
  | value (name : Option (List Char))
  | publicId (name : Option (List Char))
  | systemId (name : Option (List Char))
  | identified (name : Option (List Char))
  | dataFormat (name : Option (List Char))

/-- Stages of a declaration of attributes. -/
inductive AttributeStage where
  | elementName
  | name (element : List Char)
  | type (element name : List Char)
  | choice (element name : List Char)
  | choiceEnd (element name : List Char)
  | formats (element name : List Char)
  | format (element name : List Char)
  | formatEnd (element name : List Char)
  | value (element name : List Char) (tokenized : Bool)
  | fixedValue (element name : List Char) (tokenized : Bool)

/-- Stages of the declaration of an element. Each open group has a connector, `,` or `|`, once one
was seen; the innermost comes first. -/
inductive ElementStage where
  | name
  | model
  | firstItem
  | mixed
  | mixedName
  | mixedEnd
  | item (groups : List (Option Char))
  | itemEnd (groups : List (Option Char))

/-- Stages of the declaration of a data format. -/
inductive FormatStage where
  | name
  | kind
  | publicId
  | systemId
  | optionalSystemId

/-- Where in the prolog a lexeme stands. -/
inductive Stage where
  /-- Before the document type. -/
  | heading
  /-- After the document type. -/
  | body
  | doctypeName
  | doctypeNamed
  | doctypePublicId
  | doctypeSystemId
  | doctypeIdentified
  | doctypeEnd
  /-- Between the declarations of the document type. -/
  | subset
  | entity (e : EntityStage)
  | attributes (a : AttributeStage)
  | element (e : ElementStage)
  | format (f : FormatStage)
  /-- Before the end of a declaration. -/
  | declarationEnd

/-! ## Literals -/

/-- The text of an entity: numbers of characters are replaced, references to entities stay. `place`
tells where in the document a symbol of the literal stands, and `acc` holds the text before, its
last character first. -/
def readEntityText (place : List Symbol → List Symbol) (acc : List Char) (s : List Symbol) :
    Except Fault (List Char) :=
  match s with
  | [] => .ok acc.reverse
  | .char '\r' _ :: .char '\n' _ :: r => readEntityText place ('\n' :: acc) r
  | .char '&' role :: r =>
    match _hx : scanReference r with
    | .error (.invalid rest) => .error ⟨.invalidToken, place rest⟩
    | .error _ => .error ⟨.invalidToken, place (.char '&' role :: r)⟩
    | .ok (.char none, _) => .error ⟨.invalidCharacterNumber, place (.char '&' role :: r)⟩
    | .ok (.char (some c), r') => readEntityText place (c :: acc) r'
    | .ok (.entity n, r') => readEntityText place (';' :: n.reverse ++ '&' :: acc) r'
  | .char '%' role :: r =>
    match scanPercent r with
    | .ok (.percent, rest) => .error ⟨.invalidToken, place rest⟩
    | .ok _ => .error ⟨.parameterReference, place (.char '%' role :: r)⟩
    | .error (.invalid rest) => .error ⟨.invalidToken, place rest⟩
    | .error _ => .error ⟨.invalidToken, place (.char '%' role :: r)⟩
  | .char c _ :: r => readEntityText place ((if c = '\r' then '\n' else c) :: acc) r
  | s => .error ⟨.invalidToken, place s⟩
termination_by s.length
decreasing_by
  all_goals first
    | (simp only [List.length_cons]
       have h := length_scanReference_lt _hx
       omega)
    | (simp only [List.length_cons]
       omega)

/-- Whether a character may stand in a public identifier. -/
def isPublicIdChar (c : Char) : Bool :=
  c.isAlphanum || c = '\n' || c = '\r' || " -'()+,./:=?;!*#@$_%".toList.contains c

/-- The literal from its first character on that no public identifier may hold. -/
def publicIdFault? (value : List Symbol) : Option (List Symbol) :=
  match value.dropWhile fun
    | .char c _ => isPublicIdChar c
    | _ => false with
  | [] => none
  | s => some s

/-! ## Steps -/

/-- The fault of a lexeme that may not stand where it does. -/
def Placed.misplaced (p : Placed) : Fault :=
  match p.lexeme with
  | .parameterReference => ⟨.parameterReference, p.start⟩
  | .instruction .declaration => ⟨.misplacedDeclaration, p.start⟩
  | _ => ⟨.syntaxError, p.start⟩

def acceptPublicId {α : Type} (value valueEnd : List Symbol) (next : α) : Except Fault α :=
  match publicIdFault? value with
  | some s => .error ⟨.invalidPublicId, s ++ valueEnd⟩
  | none => .ok next

/-- The declarations after an entity, unless declarations are passed over. -/
def Dtd.declareEntity (d : Dtd) (name : Option (List Char)) (value : EntityValue) : Dtd :=
  match name with
  | none => d
  | some n => if d.passesOver then d else d.addEntity ⟨n, value⟩

/-- The declarations after an attribute, unless declarations are passed over. -/
def Dtd.declareValue (d : Dtd) (element name : List Char) (tokenized : Bool)
    (value? : Option (List Char)) : Dtd :=
  if d.passesOver then d else d.addAttribute element ⟨name, tokenized, value?⟩

def EntityStage.step (d : Dtd) (p : Placed) : EntityStage → Except Fault (Stage × Dtd)
  | begin =>
    match p.lexeme with
    | .percent => .ok (.entity .parameterName, d)
    | .name n => .ok (.entity (.value (some n)), d)
    | _ => .error p.misplaced
  | parameterName =>
    match p.lexeme with
    | .name _ => .ok (.entity (.value none), d)
    | _ => .error p.misplaced
  | value name =>
    match p.lexeme with
    | .name ['S', 'Y', 'S', 'T', 'E', 'M'] => .ok (.entity (.systemId name), d)
    | .name ['P', 'U', 'B', 'L', 'I', 'C'] => .ok (.entity (.publicId name), d)
    | .literal v valueEnd =>
      if d.passesOver then .ok (.declarationEnd, d)
      else
        match readEntityText (· ++ valueEnd) [] v with
        | .error f => .error f
        | .ok cs => .ok (.declarationEnd, d.declareEntity name (.text cs))
    | _ => .error p.misplaced
  | publicId name =>
    match p.lexeme with
    | .literal v valueEnd => acceptPublicId v valueEnd (.entity (.systemId name), d)
    | _ => .error p.misplaced
  | systemId name =>
    match p.lexeme with
    | .literal _ _ => .ok (.entity (.identified name), d)
    | _ => .error p.misplaced
  | identified name =>
    match p.lexeme with
    | .close => .ok (.subset, d.declareEntity name .external)
    | .name ['N', 'D', 'A', 'T', 'A'] =>
      if name.isSome then .ok (.entity (.dataFormat name), d) else .error p.misplaced
    | _ => .error p.misplaced
  | dataFormat name =>
    match p.lexeme with
    | .name _ => .ok (.declarationEnd, d.declareEntity name .unparsed)
    | _ => .error p.misplaced

/-- Whether a keyword is a type of attributes, and whether its values are lists of tokens. -/
def attributeType? (keyword : List Char) : Option Bool :=
  if keyword = "CDATA".toList then some false
  else if ["ID", "IDREF", "IDREFS", "ENTITY", "ENTITIES", "NMTOKEN", "NMTOKENS"].contains
      (String.ofList keyword) then some true
  else none

def stepDefault (d : Dtd) (p : Placed) (element name : List Char) (tokenized : Bool)
    (v valueEnd : List Symbol) : Except Fault (Stage × Dtd) :=
  if d.passesOver then .ok (.attributes (.name element), d)
  else
    match expandValue d tokenized p.start v valueEnd with
    | .error f => .error f
    | .ok cs => .ok (.attributes (.name element), d.declareValue element name tokenized (some cs))

def AttributeStage.step (d : Dtd) (p : Placed) : AttributeStage → Except Fault (Stage × Dtd)
  | elementName =>
    match p.lexeme with
    | .name n => .ok (.attributes (.name n), d)
    | .prefixedName n => .ok (.attributes (.name n), d)
    | _ => .error p.misplaced
  | name e =>
    match p.lexeme with
    | .close => .ok (.subset, d)
    | .name n => .ok (.attributes (.type e n), d)
    | .prefixedName n => .ok (.attributes (.type e n), d)
    | _ => .error p.misplaced
  | type e a =>
    match p.lexeme with
    | .parenOpen => .ok (.attributes (.choice e a), d)
    | .name n =>
      if n = "NOTATION".toList then .ok (.attributes (.formats e a), d)
      else
        match attributeType? n with
        | some tokenized => .ok (.attributes (.value e a tokenized), d)
        | none => .error p.misplaced
    | _ => .error p.misplaced
  | choice e a =>
    match p.lexeme with
    | .name _ => .ok (.attributes (.choiceEnd e a), d)
    | .prefixedName _ => .ok (.attributes (.choiceEnd e a), d)
    | .nameToken _ => .ok (.attributes (.choiceEnd e a), d)
    | _ => .error p.misplaced
  | choiceEnd e a =>
    match p.lexeme with
    | .bar => .ok (.attributes (.choice e a), d)
    | .parenClose none => .ok (.attributes (.value e a true), d)
    | _ => .error p.misplaced
  | formats e a =>
    match p.lexeme with
    | .parenOpen => .ok (.attributes (.format e a), d)
    | _ => .error p.misplaced
  | format e a =>
    match p.lexeme with
    | .name _ => .ok (.attributes (.formatEnd e a), d)
    | _ => .error p.misplaced
  | formatEnd e a =>
    match p.lexeme with
    | .bar => .ok (.attributes (.format e a), d)
    | .parenClose none => .ok (.attributes (.value e a true), d)
    | _ => .error p.misplaced
  | value e a tokenized =>
    match p.lexeme with
    | .keyword k =>
      if k = "IMPLIED".toList ∨ k = "REQUIRED".toList then
        .ok (.attributes (.name e), d.declareValue e a tokenized none)
      else if k = "FIXED".toList then .ok (.attributes (.fixedValue e a tokenized), d)
      else .error p.misplaced
    | .literal v valueEnd => stepDefault d p e a tokenized v valueEnd
    | _ => .error p.misplaced
  | fixedValue e a tokenized =>
    match p.lexeme with
    | .literal v valueEnd => stepDefault d p e a tokenized v valueEnd
    | _ => .error p.misplaced

def Lexeme.isItem : Lexeme → Bool
  | name _ => true
  | prefixedName _ => true
  | countedName => true
  | _ => false

/-- The stage after a connector: those of one group have to agree. -/
def connect (d : Dtd) (p : Placed) (c : Char) :
    List (Option Char) → Except Fault (Stage × Dtd)
  | [] => .error p.misplaced
  | g :: gs =>
    if g = none ∨ g = some c then .ok (.element (.item (some c :: gs)), d)
    else .error p.misplaced

def ElementStage.step (d : Dtd) (p : Placed) : ElementStage → Except Fault (Stage × Dtd)
  | name =>
    match p.lexeme with
    | .name _ => .ok (.element .model, d)
    | .prefixedName _ => .ok (.element .model, d)
    | _ => .error p.misplaced
  | model =>
    match p.lexeme with
    | .name ['E', 'M', 'P', 'T', 'Y'] => .ok (.declarationEnd, d)
    | .name ['A', 'N', 'Y'] => .ok (.declarationEnd, d)
    | .parenOpen => .ok (.element .firstItem, d)
    | _ => .error p.misplaced
  | firstItem =>
    match p.lexeme with
    | .keyword k => if k = "PCDATA".toList then .ok (.element .mixed, d) else .error p.misplaced
    | .parenOpen => .ok (.element (.item [none, none]), d)
    | x => if x.isItem then .ok (.element (.itemEnd [none]), d) else .error p.misplaced
  | mixed =>
    match p.lexeme with
    | .parenClose none => .ok (.declarationEnd, d)
    | .parenClose (some '*') => .ok (.declarationEnd, d)
    | .bar => .ok (.element .mixedName, d)
    | _ => .error p.misplaced
  | mixedName =>
    match p.lexeme with
    | .name _ => .ok (.element .mixedEnd, d)
    | .prefixedName _ => .ok (.element .mixedEnd, d)
    | _ => .error p.misplaced
  | mixedEnd =>
    match p.lexeme with
    | .parenClose (some '*') => .ok (.declarationEnd, d)
    | .bar => .ok (.element .mixedName, d)
    | _ => .error p.misplaced
  | item groups =>
    match p.lexeme with
    | .parenOpen => .ok (.element (.item (none :: groups)), d)
    | x => if x.isItem then .ok (.element (.itemEnd groups), d) else .error p.misplaced
  | itemEnd groups =>
    match p.lexeme with
    | .parenClose _ =>
      if groups.length ≤ 1 then .ok (.declarationEnd, d)
      else .ok (.element (.itemEnd groups.tail), d)
    | .comma => connect d p ',' groups
    | .bar => connect d p '|' groups
    | _ => .error p.misplaced

def FormatStage.step (d : Dtd) (p : Placed) : FormatStage → Except Fault (Stage × Dtd)
  | name =>
    match p.lexeme with
    | .name _ => .ok (.format .kind, d)
    | _ => .error p.misplaced
  | kind =>
    match p.lexeme with
    | .name ['S', 'Y', 'S', 'T', 'E', 'M'] => .ok (.format .systemId, d)
    | .name ['P', 'U', 'B', 'L', 'I', 'C'] => .ok (.format .publicId, d)
    | _ => .error p.misplaced
  | publicId =>
    match p.lexeme with
    | .literal v valueEnd => acceptPublicId v valueEnd (.format .optionalSystemId, d)
    | _ => .error p.misplaced
  | systemId =>
    match p.lexeme with
    | .literal _ _ => .ok (.declarationEnd, d)
    | _ => .error p.misplaced
  | optionalSystemId =>
    match p.lexeme with
    | .literal _ _ => .ok (.declarationEnd, d)
    | .close => .ok (.subset, d)
    | _ => .error p.misplaced

def declarationStage? (keyword : List Char) : Option Stage :=
  if keyword = "ENTITY".toList then some (.entity .begin)
  else if keyword = "ATTLIST".toList then some (.attributes .elementName)
  else if keyword = "ELEMENT".toList then some (.element .name)
  else if keyword = "NOTATION".toList then some (.format .name)
  else none

def Stage.step (d : Dtd) (p : Placed) : Stage → Except Fault (Stage × Dtd)
  | heading =>
    match p.lexeme with
    | .comment => .ok (.heading, d)
    | .instruction .ordinary => .ok (.heading, d)
    | .declaration k =>
      if k = "DOCTYPE".toList then .ok (.doctypeName, d) else .error p.misplaced
    | _ => .error p.misplaced
  | body =>
    match p.lexeme with
    | .comment => .ok (.body, d)
    | .instruction .ordinary => .ok (.body, d)
    | _ => .error p.misplaced
  | doctypeName =>
    match p.lexeme with
    | .name _ => .ok (.doctypeNamed, d)
    | .prefixedName _ => .ok (.doctypeNamed, d)
    | _ => .error p.misplaced
  | doctypeNamed =>
    match p.lexeme with
    | .bracketOpen => .ok (.subset, d)
    | .close => .ok (.body, d)
    | .name ['S', 'Y', 'S', 'T', 'E', 'M'] => .ok (.doctypeSystemId, d)
    | .name ['P', 'U', 'B', 'L', 'I', 'C'] => .ok (.doctypePublicId, d)
    | _ => .error p.misplaced
  | doctypePublicId =>
    match p.lexeme with
    | .literal v valueEnd =>
      acceptPublicId v valueEnd (.doctypeSystemId, { d with hasExternal := true })
    | _ => .error p.misplaced
  | doctypeSystemId =>
    match p.lexeme with
    | .literal _ _ => .ok (.doctypeIdentified, { d with hasExternal := true })
    | _ => .error p.misplaced
  | doctypeIdentified =>
    match p.lexeme with
    | .bracketOpen => .ok (.subset, d)
    | .close => .ok (.body, d)
    | _ => .error p.misplaced
  | doctypeEnd =>
    match p.lexeme with
    | .close => .ok (.body, d)
    | _ => .error p.misplaced
  | subset =>
    match p.lexeme with
    | .comment => .ok (.subset, d)
    | .instruction .ordinary => .ok (.subset, d)
    | .bracketClose => .ok (.doctypeEnd, d)
    | .parameterReference =>
      .ok (.subset, { d with hasExternal := true, passesOver := !d.standalone })
    | .declaration k =>
      match declarationStage? k with
      | some stage => .ok (stage, d)
      | none => .error p.misplaced
    | _ => .error p.misplaced
  | entity e => e.step d p
  | attributes a => a.step d p
  | element e => e.step d p
  | format f => f.step d p
  | declarationEnd =>
    match p.lexeme with
    | .close => .ok (.subset, d)
    | _ => .error p.misplaced

/-- The stage that a sequence of lexemes leads to, with what they declare. -/
def Stage.run (d : Dtd) (stage : Stage) : List Placed → Except Fault (Stage × Dtd)
  | [] => .ok (stage, d)
  | p :: ps =>
    match p.lexeme with
    | .blanks => run d stage ps
    | _ =>
      match stage.step d p with
      | .error f => .error f
      | .ok (stage, d) => run d stage ps

/-- Reads the prolog of a document up to the tag of its root. -/
def readProlog (standalone : Bool) (s : List Symbol) : Except Fault (Dtd × List Symbol) :=
  let (ps, last) := lexemes [] s
  match Stage.run { standalone } .heading ps with
  | .error f => .error f
  | .ok (stage, d) =>
    match last with
    | .finished => .error ⟨.noElement, []⟩
    | .fault f => .error f
    | .root s =>
      match stage with
      | .heading => .ok (d, s)
      | .body => .ok (d, s)
      | _ => .error ⟨.syntaxError, s⟩

def Lexeme.mayTrail : Lexeme → Bool
  | blanks => true
  | comment => true
  | instruction .ordinary => true
  | _ => false

def readEpilog (s : List Symbol) : Except Fault Unit :=
  let (ps, last) := lexemes [] s
  match ps.find? (!·.lexeme.mayTrail) with
  | some p => .error ⟨.junkAfterRoot, p.start⟩
  | none =>
    match last with
    | .finished => .ok ()
    | .fault f => .error f
    | .root s => .error ⟨.junkAfterRoot, s⟩

end ServiceDoc.Xml
