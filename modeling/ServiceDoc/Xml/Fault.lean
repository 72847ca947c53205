import ServiceDoc.Xml.Scan
/-!
# Faults

What can be wrong with a document, and where. A place in a document is named by the symbols that
follow it, so that no reader counts lines; the line and the column are worked out once, for the one
fault that ends the reading.
-/

namespace ServiceDoc.Xml

/-- What is wrong with a document. -/
inductive Cause where
  | noElement
  | unclosedToken
  | unclosedCdata
  | partialCharacter
  | mismatchedTag
  | junkAfterRoot
  | syntaxError
  | invalidToken
  | duplicateAttribute
  | undefinedEntity
  /-- An entity in content that has no text to put in its place. -/
  | skippedEntity (name : List Char)
  | recursiveEntity
  | asynchronousEntity
  | externalInAttribute
  | binaryEntity
  | parameterReference
  | invalidCharacterNumber
  | invalidPublicId
  | unboundPrefix
  | undeclaredPrefix
  | reservedXml
  | reservedXmlns
  | reservedUri
  | malformedDeclaration
  | misplacedDeclaration
  | incorrectEncoding
  | unknownEncoding
  deriving DecidableEq, Repr

/-- As many leading characters of a text as fit into a number of UTF-8 bytes, the last one cut off
where it does not fit. -/
def takeUtf8 : Nat → List Char → List Char
  | _, [] => []
  | n, c :: r => if c.utf8Size ≤ n then c :: takeUtf8 (n - c.utf8Size) r else []

/-- The wording of a cause. An entity that is named is named within the first hundred bytes. -/
def Cause.message : Cause → String
  | noElement => "no element found"
  | unclosedToken => "unclosed token"
  | unclosedCdata => "unclosed CDATA section"
  | partialCharacter => "partial character"
  | mismatchedTag => "mismatched tag"
  | junkAfterRoot => "junk after document element"
  | syntaxError => "syntax error"
  | invalidToken => "not well-formed (invalid token)"
  | duplicateAttribute => "duplicate attribute"
  | undefinedEntity => "undefined entity"
  | skippedEntity name => "undefined entity " ++ String.ofList (takeUtf8 100 ('&' :: name ++ [';']))
  | recursiveEntity => "recursive entity reference"
  | asynchronousEntity => "asynchronous entity"
  | externalInAttribute => "reference to external entity in attribute"
  | binaryEntity => "reference to binary entity"
  | parameterReference => "illegal parameter entity reference"
  | invalidCharacterNumber => "reference to invalid character number"
  | invalidPublicId => "illegal character(s) in public id"
  | unboundPrefix => "unbound prefix"
  | undeclaredPrefix => "must not undeclare prefix"
  | reservedXml => "reserved prefix (xml) must not be undeclared or bound to another namespace name"
  | reservedXmlns => "reserved prefix (xmlns) must not be declared or undeclared"
  | reservedUri => "prefix must not be bound to one of the reserved namespace names"
  | malformedDeclaration => "XML declaration not well-formed"
  | misplacedDeclaration => "XML or text declaration not at start of entity"
  | incorrectEncoding => "encoding specified in XML declaration is incorrect"
  | unknownEncoding => "unknown encoding"

/-- What is wrong, and the symbols from that place on. -/
structure Fault where
  cause : Cause
  rest : List Symbol
  deriving Repr

/-- The fault of a token that starts at `start`: what is invalid is reported where it stands, what
is incomplete where the token starts. -/
def ScanFault.toFault (start : List Symbol) : ScanFault → Fault
  | .invalid rest => ⟨.invalidToken, rest⟩
  | .unclosed => ⟨.unclosedToken, start⟩
  | .cutCharacter => ⟨.partialCharacter, start⟩

end ServiceDoc.Xml
