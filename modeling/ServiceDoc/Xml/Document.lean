import ServiceDoc.Xml.Content
import ServiceDoc.Xml.Encoding
import ServiceDoc.Xml.Position
import ServiceDoc.Xml.Prolog.Declaration
import ServiceDoc.Xml.Prolog.Heading
/-!
# Documents

From bytes or from a text to the root of a document, or to what is wrong with it and where. Bytes
are read in the encoding that their beginning shows, until the head of the document declares
another; of a text the encoding is known, so what the head says of it does not count.
-/

namespace ServiceDoc.Xml

/-- Why a document cannot be read. -/
inductive DocumentError where
  | fault (cause : Cause) (position : Position)
  /-- The declared encoding cannot be used. -/
  | charset (f : Encoding.CharsetFault)
  deriving DecidableEq, Repr

def DocumentError.message : DocumentError → String
  | fault cause p =>
    cause.message ++ ": line " ++ toString p.line ++ ", column " ++ toString p.column
  | charset f => f.message

namespace Document

def readBody (standalone : Bool) (s : List Symbol) : Except Fault Node :=
  match readProlog standalone s with
  | .error f => .error f
  | .ok (dtd, s) =>
    match readContent dtd false dtd.entities Scope.preset [] [] s with
    | .error f => .error f
    | .ok (nodes, s) =>
      match readEpilog s with
      | .error f => .error f
      | .ok () => .ok (nodes.headD (.text ""))

/-- The error of a fault in a document that consists of those symbols. -/
def locate (document : List Symbol) (f : Fault) : DocumentError :=
  .fault f.cause (.ofRest document f.rest)

/-- The head of a document, if there is one, and what follows it. -/
def readHead (s : List Symbol) : Except Fault (Option Heading × List Symbol) :=
  match s with
  | .char '<' a :: .char '?' b :: r =>
    match scanInstruction r with
    | .error f => .error (f.toFault (.char '<' a :: .char '?' b :: r))
    | .ok (.ordinary, _) => .ok (none, s)
    | .ok (.declaration, rest) =>
      match Heading.read (r.drop 3) with
      | .error t => .error ⟨.malformedDeclaration, t⟩
      | .ok h => .ok (some h, rest)
  | s => .ok (none, s)

/-- Reads a document whose encoding is settled; `document` holds all its symbols, a byte order mark
included, and `s` those after the mark. -/
def ofSymbols (document s : List Symbol) : Except DocumentError Node :=
  match readHead s with
  | .error f => .error (locate document f)
  | .ok (heading, s) =>
    match readBody ((heading.map Heading.standalone).getD false) s with
    | .error f => .error (locate document f)
    | .ok root => .ok root

/-- The encoding of the rest of a document whose head declares one. UTF-16 and encodings of single
bytes do not mix, nor do the two byte orders. -/
def switchTo (current : Encoding) (name : List Char) :
    Except (Sum Cause Encoding.CharsetFault) Encoding :=
  match Encoding.Declared.of (String.ofList name), current with
  | .anyUtf16, .utf16 o => .ok (.utf16 o)
  | .anyUtf16, _ => .error (.inl .incorrectEncoding)
  | .known (.utf16 o), .utf16 o' =>
    if o = o' then .ok (.utf16 o) else .error (.inl .incorrectEncoding)
  | .known (.utf16 _), _ => .error (.inl .incorrectEncoding)
  | .known _, .utf16 _ => .error (.inl .incorrectEncoding)
  | .known e, _ => .ok e
  | .other, _ =>
    match Encoding.charset? (String.ofList name) with
    | .ok p => .ok (.page p)
    | .error .foreign => .error (.inl .unknownEncoding)
    | .error f => .error (.inr f)

/-- Reads a document in the encoding that was detected, or in the one that its head declares. -/
def ofDetected (bytes : List UInt8) (d : Encoding.Detection) : Except DocumentError Node :=
  let body := d.encoding.decode (bytes.drop d.markSize)
  let document := if d.markSize = 0 then body else .malformed :: body
  match readHead body with
  | .error f => .error (locate document f)
  | .ok (some ⟨some (name, nameAt), standalone⟩, s) =>
    match switchTo d.encoding name with
    | .error (.inl cause) => .error (locate document ⟨cause, nameAt⟩)
    | .error (.inr f) => .error (.charset f)
    | .ok e =>
      let headSize := d.markSize + (body.length - s.length) * d.encoding.unitSize
      let (document, s) :=
        match d.encoding, e with
        | .utf8, .utf8 => (document, s)
        | .utf16 _, .utf16 _ => (document, s)
        | _, _ => (e.decode bytes, e.decode (bytes.drop headSize))
      match readBody standalone s with
      | .error f => .error (locate document f)
      | .ok root => .ok root
  | .ok (heading, s) =>
    match readBody ((heading.map Heading.standalone).getD false) s with
    | .error f => .error (locate document f)
    | .ok root => .ok root

def ofBytes (bytes : List UInt8) : Except DocumentError Node :=
  match Encoding.detect? bytes with
  | none => .error (.fault .unclosedToken {})
  | some d => ofDetected bytes d

/-- Whether the UTF-8 form of a text looks like UTF-16: one of its first two bytes is zero. -/
def looksWide : List Char → Bool
  | c :: r => c = '\x00' || (c.toNat < 0x80 && r.head? = some '\x00')
  | [] => false

def ofText (text : String) : Except DocumentError Node :=
  if looksWide text.toList then
    let bytes := text.toUTF8.toList
    match Encoding.detect? bytes with
    | none => .error (.fault .unclosedToken {})
    | some d => let s := d.encoding.decode bytes; ofSymbols s s
  else
    match text.toList with
    | ['<'] => .error (.fault .unclosedToken {})
    | '\ufeff' :: r => let s := r.map Symbol.ofChar; ofSymbols (.malformed :: s) s
    | cs => let s := cs.map Symbol.ofChar; ofSymbols s s

end Document

end ServiceDoc.Xml
