import ServiceDoc.Xml.Element
import ServiceDoc.Xml.Token
/-!
# Content

The tree that a sequence of tokens builds. Open elements are kept in a list, the innermost first, so
the nesting of a document costs no depth of recursion; only a reference to an entity does, and the
text of an entity is read without the entity itself.

The text of an entity has to be balanced: it is content of its own, whose nodes take the place of
the reference. Whatever is wrong in it is reported where the document refers to it.
-/

namespace ServiceDoc.Xml

structure Frame where
  /-- The name as the start tag writes it. -/
  tag : List Char
  name : Name
  attributes : List Attribute
  /-- The bindings around the element. -/
  outer : Scope
  /-- The nodes before the element, the last one first. -/
  before : List Node

/-- The element of a frame, from its children, the last one first. -/
def Frame.close (f : Frame) (children : List Node) : Node :=
  .element f.name f.attributes children.reverse

/-- The end of the input: no fault only where the text of an entity leaves no element open. -/
def endOfContent (inEntity : Bool) (frames : List Frame) (nodes : List Node) (s : List Symbol) :
    Except Fault (List Node × List Symbol) :=
  if inEntity then
    if frames.isEmpty then .ok (nodes, []) else .error ⟨.asynchronousEntity, s⟩
  else .error ⟨.noElement, s⟩

/-- Reads content. `nodes` holds the nodes of the innermost open element so far, the last one first,
`scope` the bindings there, and `avail` the entities that are not being read. A document ends with
its first element, the text of an entity with its last symbol; the nodes come with what follows. -/
def readContent (dtd : Dtd) (inEntity : Bool) (avail : List Entity) (scope : Scope)
    (frames : List Frame) (nodes : List Node) (s : List Symbol) :
    Except Fault (List Node × List Symbol) :=
  match s with
  | [] => endOfContent inEntity frames nodes []
  | [.char '\r' role] => endOfContent inEntity frames (.text "\n" :: nodes) [.char '\r' role]
  | s =>
    match _ht : scanToken s with
    | .error f => .error f
    | .ok (.text cs, r) =>
      readContent dtd inEntity avail scope frames (.text (String.ofList cs) :: nodes) r
    | .ok (.comment, r) => readContent dtd inEntity avail scope frames nodes r
    | .ok (.instruction .ordinary, r) => readContent dtd inEntity avail scope frames nodes r
    | .ok (.instruction .declaration, _) => .error ⟨.misplacedDeclaration, s⟩
    | .ok (.reference (.char none), _) => .error ⟨.invalidCharacterNumber, s⟩
    | .ok (.reference (.char (some c)), r) =>
      readContent dtd inEntity avail scope frames (.text (String.singleton c) :: nodes) r
    | .ok (.reference (.entity name), r) =>
      match predefinedEntity? name with
      | some c =>
        readContent dtd inEntity avail scope frames (.text (String.singleton c) :: nodes) r
      | none =>
        match _he : avail.find? (·.name = name) with
        | some ⟨_, .text cs⟩ =>
          match readContent dtd true (withoutEntity name avail) scope [] []
              (cs.map Symbol.ofChar) with
          | .error f => .error ⟨f.cause, s⟩
          | .ok (ns, _) => readContent dtd inEntity avail scope frames (ns ++ nodes) r
        | some ⟨_, .external⟩ => .error ⟨.skippedEntity name, s⟩
        | some ⟨_, .unparsed⟩ => .error ⟨.binaryEntity, s⟩
        | none =>
          if dtd.entities.any (·.name = name) then .error ⟨.recursiveEntity, s⟩
          else if dtd.isComplete then .error ⟨.undefinedEntity, s⟩
          else .error ⟨.skippedEntity name, s⟩
    | .ok (.startTag tag, r) =>
      match tag.opening dtd scope s with
      | .error f => .error f
      | .ok o =>
        if tag.closed then
          if !inEntity && frames.isEmpty then
            .ok (.element o.name o.attributes [] :: nodes, r)
          else
            readContent dtd inEntity avail scope frames
              (.element o.name o.attributes [] :: nodes) r
        else
          readContent dtd inEntity avail o.scope
            (⟨tag.name, o.name, o.attributes, scope, nodes⟩ :: frames) [] r
    | .ok (.endTag name nameAt, r) =>
      match frames with
      | [] => .error ⟨.asynchronousEntity, s⟩
      | f :: frames =>
        if name = f.tag then
          if !inEntity && frames.isEmpty then .ok (f.close nodes :: f.before, r)
          else readContent dtd inEntity avail f.outer frames (f.close nodes :: f.before) r
        else .error ⟨.mismatchedTag, nameAt⟩
termination_by (avail.length, s.length)
decreasing_by
  all_goals first
    | exact Prod.Lex.left _ _ (length_withoutEntity_lt _he)
    | exact Prod.Lex.right _ (length_scanToken_lt _ht)

end ServiceDoc.Xml
