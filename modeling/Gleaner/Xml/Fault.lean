import Gleaner.Text.Utf8

/-!
What makes a text no document, and where.
-/

namespace Gleaner.Xml

inductive Reason where
  | noElement
  | syntaxError
  | badToken
  | unclosedToken
  | partialCharacter
  | mismatchedTag
  | duplicateAttribute
  | junkAfter
  | undefinedEntity
  | recursiveEntity
  | binaryEntity
  | externalInAttribute
  | parameterInside
  | badReference
  | badIdentifier
  | misplacedDeclaration
  | badDeclaration
  | unknownEncoding
  | wrongEncoding
  | unclosedSection
  | unboundPrefix
  | undeclaredPrefix
  | asynchronous
  | reservedXml
  | reservedXmlns
  | reservedName
  /-- An entity whose text is not in the document. -/
  | missingEntity (name : String)
  deriving DecidableEq, Inhabited

def Reason.message : Reason → String
  | noElement => "no element found"
  | syntaxError => "syntax error"
  | badToken => "not well-formed (invalid token)"
  | unclosedToken => "unclosed token"
  | partialCharacter => "partial character"
  | mismatchedTag => "mismatched tag"
  | duplicateAttribute => "duplicate attribute"
  | junkAfter => "junk after document element"
  | undefinedEntity => "undefined entity"
  | recursiveEntity => "recursive entity reference"
  | binaryEntity => "reference to binary entity"
  | externalInAttribute => "reference to external entity in attribute"
  | parameterInside => "illegal parameter entity reference"
  | badReference => "reference to invalid character number"
  | badIdentifier => "illegal character(s) in public id"
  | misplacedDeclaration => "XML or text declaration not at start of entity"
  | badDeclaration => "XML declaration not well-formed"
  | unknownEncoding => "unknown encoding"
  | wrongEncoding => "encoding specified in XML declaration is incorrect"
  | unclosedSection => "unclosed CDATA section"
  | unboundPrefix => "unbound prefix"
  | undeclaredPrefix => "must not undeclare prefix"
  | asynchronous => "asynchronous entity"
  | reservedXml => "reserved prefix (xml) must not be undeclared or bound to another namespace name"
  | reservedXmlns => "reserved prefix (xmlns) must not be declared or undeclared"
  | reservedName => "prefix must not be bound to one of the reserved namespace names"
  -- only the first hundred octets of the reference are shown
  | missingEntity name =>
    "undefined entity " ++ Text.Utf8.decodeLossy ((Text.octetsOf s!"&{name};").take 100)

/-- A reason, and how many characters follow the place. -/
structure Fault where
  reason : Reason
  left : Nat

/-- Line and column of a place, from what stands before it. -/
def lineAndColumn : Nat → Nat → List Char → Nat × Nat
  | line, column, [] => (line, column)
  | line, _, '\r' :: '\n' :: cs => lineAndColumn (line + 1) 0 cs
  | line, column, c :: cs =>
    if c = '\n' || c = '\r' then lineAndColumn (line + 1) 0 cs
    else lineAndColumn line (column + 1) cs

/-- The message for a fault in a text. -/
def Fault.message (f : Fault) (text : List Char) : String :=
  let (line, column) := lineAndColumn 1 0 (text.take (text.length - f.left))
  s!"{f.reason.message}: line {line}, column {column}"

end Gleaner.Xml
