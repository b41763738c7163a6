import PlayerPage.Fault

/-!
Why a text is no XML document.

* `Reason`, `Reason.message`: the reasons and their words.
* `Flaw`: a reason, with the number of characters of the document that were left where it was
  noticed.
-/

namespace PlayerPage.Xml

/-- Why a text is no XML document. -/
inductive Reason where
  | syntaxError
  | noElement
  | invalidToken
  | unclosedToken
  | partialCharacter
  | mismatchedTag
  | duplicateAttribute
  | junk
  | parameterReference
  | undefinedEntity
  | recursiveEntity
  | asynchronousEntity
  | badCharacterNumber
  | binaryEntity
  | externalInAttribute
  | misplacedDeclaration
  | unknownEncoding
  | incorrectEncoding
  | unclosedCdata
  | badDeclaration
  | publicId
  | unboundPrefix
  | undeclaredPrefix
  | reservedXml
  | reservedXmlns
  | reservedNamespace
  /-- The entity of a reference is declared where it is not read. -/
  | unreadEntity (reference : List Char)
  deriving DecidableEq, Repr

/-- The words for a reason. Of the reference to an entity that was not read, the first hundred
bytes are shown. -/
def Reason.message : Reason → String
  | .syntaxError => "syntax error"
  | .noElement => "no element found"
  | .invalidToken => "not well-formed (invalid token)"
  | .unclosedToken => "unclosed token"
  | .partialCharacter => "partial character"
  | .mismatchedTag => "mismatched tag"
  | .duplicateAttribute => "duplicate attribute"
  | .junk => "junk after document element"
  | .parameterReference => "illegal parameter entity reference"
  | .undefinedEntity => "undefined entity"
  | .recursiveEntity => "recursive entity reference"
  | .asynchronousEntity => "asynchronous entity"
  | .badCharacterNumber => "reference to invalid character number"
  | .binaryEntity => "reference to binary entity"
  | .externalInAttribute => "reference to external entity in attribute"
  | .misplacedDeclaration => "XML or text declaration not at start of entity"
  | .unknownEncoding => "unknown encoding"
  | .incorrectEncoding => "encoding specified in XML declaration is incorrect"
  | .unclosedCdata => "unclosed CDATA section"
  | .badDeclaration => "XML declaration not well-formed"
  | .publicId => "illegal character(s) in public id"
  | .unboundPrefix => "unbound prefix"
  | .undeclaredPrefix => "must not undeclare prefix"
  | .reservedXml =>
    "reserved prefix (xml) must not be undeclared or bound to another namespace name"
  | .reservedXmlns => "reserved prefix (xmlns) must not be declared or undeclared"
  | .reservedNamespace => "prefix must not be bound to one of the reserved namespace names"
  | .unreadEntity reference =>
    "undefined entity " ++
      String.ofList (Text.Utf8.decode ((Text.Utf8.encode reference).take 100))

/-- A reason, with the number of characters of the document that were left. -/
structure Flaw where
  reason : Reason
  left : Nat
  deriving DecidableEq, Repr

end PlayerPage.Xml
