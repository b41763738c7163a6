import PlayerPage.Xml.Content
import PlayerPage.Xml.Declaration
import PlayerPage.Xml.Prolog.Declaration

/-!
Reading documents from texts and bytes.

* `Source`: a text, or bytes whose encoding shows in their first bytes or is declared.
* `detect?`: the encoding of bytes and whether a byte order mark stands in front.
* `Encoding.ofName`: the encoding of a declared name.
* `Opening`, `Source.opening`: a document after its declaration; `Opening.tree`: the tree of the
  rest.
* `read`: the tree of a document, or the fault at the first place where it is none.
-/

namespace PlayerPage.Xml

open Text (Charset)

/-- Where a document comes from. In a text a declared encoding does not count. -/
inductive Source where
  | text (s : String)
  | bytes (b : List UInt8)

namespace Source

/-- The bytes of a source. -/
def toBytes : Source → List UInt8
  | .text s => Text.Utf8.encode s.toList
  | .bytes b => b

/-- Whether a declared encoding counts. -/
def obeysDeclaration : Source → Bool
  | .text _ => false
  | .bytes _ => true

end Source

/-! ### Encodings -/

/-- The encoding that the first bytes show, and the number of bytes of a byte order mark in front;
none if there are too few bytes to tell. -/
def detect? (bytes : List UInt8) : Option (Encoding × Nat) :=
  match bytes with
  | [] => some (.utf8, 0)
  | [b] => if [0xfe, 0xff, 0xef, 0x00, 0x3c].contains b then none else some (.utf8, 0)
  | a :: b :: rest =>
    if a == 0xfe && b == 0xff then some (.utf16 .high, 2)
    else if a == 0xff && b == 0xfe then some (.utf16 .low, 2)
    else if a == 0xef && b == 0xbb then
      match rest with
      | [] => none
      | c :: _ => some (.utf8, if c == 0xbf then 3 else 0)
    else if a == 0 then some (.utf16 .high, 0)
    else if b == 0 then some (.utf16 .low, 0)
    else some (.utf8, 0)

/-- The encodings that every reader knows, by name in upper case. -/
def knownEncodings : List (String × Encoding) :=
  [("ISO-8859-1", .latin), ("US-ASCII", .ascii), ("UTF-8", .utf8), ("UTF-16BE", .utf16 .high),
    ("UTF-16LE", .utf16 .low), ("UTF-16", .utf16 .high)]

/-- Whether the upper half of a code page leaves the characters of markup to the lower half. -/
def keepsMarkup (upper : List Char) : Bool :=
  upper.all fun c =>
    0x7f ≤ c.toNat || (c.toNat < 0x20 && !isSpace c) ||
      ['$', '@', '\\', '^', '`', '\x7b', '\x7d', '~'].contains c

/-- The bytes after the hyphen, when all bytes are decoded in order. -/
def bytesAfterHyphen : List UInt8 :=
  (List.range' 46 210).map UInt8.ofNat

/-- The encoding of a declared name, in a document that was read as `current` up to there; the
name had `left` glyphs left. Any code page will do that agrees with ASCII on markup. The characters
of an encoding are found out by decoding all bytes; this fails where a hyphen ends the ASCII part of
a name. -/
def Encoding.ofName (current : Encoding) (name : List Char) :
    Except Fault (Except Reason Encoding) :=
  let shown := String.ofList name
  let upperName := String.ofList (name.map Char.toUpper)
  match knownEncodings.lookup upperName with
  | some known =>
    .ok <|
      if known.unitSize != current.unitSize then .error .incorrectEncoding
      else if known.unitSize == 1 then .ok known
      else if upperName == "UTF-16" || known = current then .ok current
      else .error .incorrectEncoding
  | none =>
    match Charset.ofName? shown with
    | none => .error (.unknownEncoding shown)
    | some (.page upper) =>
      .ok (if keepsMarkup upper then .ok (.page upper) else .error .unknownEncoding)
    | some (.utf8 _) => .ok (.ok (.page []))
    | some .tildeEscapes => .ok (.ok .tildeless)
    | some .nonAscii => .ok (.error .unknownEncoding)
    | some .transform => .error (.notTextEncoding shown "decode")
    | some .hostNames => .error (.failingEncoding shown "Unsupported error handling replace")
    | some .punycode =>
      .error (.undecodable "ascii" bytesAfterHyphen 82 83 "ordinal not in range(128)")
    | some .void => .error (.failingEncoding shown "undefined encoding")
    | some _ => .error .wideEncoding

/-! ### Places -/

/-- The place after glyphs: a carriage return, a line feed, or both in this order end a line. Half a
code unit takes no place. -/
def placeAfter : Place → List Glyph → Place
  | place, [] => place
  | place, .char '\r' :: .char '\n' :: rest => placeAfter ⟨place.line + 1, 0⟩ rest
  | place, .char '\r' :: rest => placeAfter ⟨place.line + 1, 0⟩ rest
  | place, .char '\n' :: rest => placeAfter ⟨place.line + 1, 0⟩ rest
  | place, .half :: rest => placeAfter place rest
  | place, _ :: rest => placeAfter ⟨place.line, place.column + 1⟩ rest

/-- The fault that a flaw of a document is. -/
def Flaw.toFault (document : List Glyph) (flaw : Flaw) : Fault :=
  .xml flaw.reason.message (placeAfter ⟨1, 0⟩ (document.take (document.length - flaw.left)))

/-! ### Documents -/

/-- A document whose declaration, if it has one, has been read. -/
structure Opening where
  /-- The encoding of what is left. -/
  encoding : Encoding
  /-- The whole document, and what is left of it. -/
  document : List Glyph
  rest : List Glyph
  standalone : Bool

/-- The characters of glyphs. -/
def charsOf (s : List Glyph) : List Char :=
  s.filterMap fun g => match g with | .char c => some c | _ => none

/-- The document in the encoding that its declaration names, of which `consumed` bytes have been
read. -/
def Opening.inEncoding (opening : Opening) (bytes : List UInt8) (name : List Char)
    (left consumed : Nat) : Except Fault Opening := do
  match ← Encoding.ofName opening.encoding name with
  | .error reason => .error ((⟨reason, left⟩ : Flaw).toFault opening.document)
  | .ok encoding =>
    if encoding = opening.encoding then pure opening
    else
      let document := encoding.glyphs bytes
      pure { opening with encoding, document, rest := document.drop consumed }

/-- The document after its declaration, if it has one; `mark` is the number of bytes of its byte
order mark. -/
def Opening.read (source : Source) (encoding : Encoding) (mark : Nat) : Except Fault Opening := do
  let bytes := source.toBytes
  let document := encoding.glyphs bytes
  let start := if mark == 0 then document else document.tail
  match Prolog.token encoding start with
  | .ok (.declaration, rest) =>
    let body := (start.drop 5).take (start.length - rest.length - 7)
    let left (s : List Char) : Nat := s.length + 2 + rest.length
    match Declaration.parse (charsOf body) with
    | .error bad => .error ((⟨.badDeclaration, left bad⟩ : Flaw).toFault document)
    | .ok declaration =>
      let opening : Opening := ⟨encoding, document, rest, declaration.standalone⟩
      match declaration.encoding with
      | some (name, fromName) =>
        if source.obeysDeclaration then
          let consumed := mark + encoding.unitSize * (start.length - rest.length)
          opening.inEncoding bytes name (left fromName) consumed
        else pure opening
      | none => pure opening
  | _ => pure ⟨encoding, document, start, false⟩

/-- What follows the first element is checked: comments, processing instructions and spaces. At
most `steps` tokens are read. -/
def epilog (encoding : Encoding) : (steps : Nat) → List Glyph → Except Flaw Unit
  | 0, _ => .ok ()
  | _, [] => .ok ()
  | steps + 1, s =>
    match Prolog.token encoding s with
    | .ok (.space, rest) | .ok (.instruction, rest) | .ok (.comment, rest) =>
      epilog encoding steps rest
    | .ok _ => .error ⟨.junk, s.length⟩
    | .error stop => .error (stop.flaw s.length)

/-- The events of a document after its declaration. -/
def events (encoding : Encoding) (standalone : Bool) (s : List Glyph) :
    Except Flaw (List Event) := do
  let (dtd, rest) ← Prolog.read encoding standalone s
  let (found, rest) ← content encoding dtd rest
  epilog encoding (rest.length + 1) rest
  pure found

/-- The tree of what is left of a document. -/
def Opening.tree (opening : Opening) : Except Fault Element := do
  let found ← (events opening.encoding opening.standalone opening.rest).mapError
    (Flaw.toFault opening.document)
  match Element.ofEvents? found with
  | some e => pure e
  | none => .error (.xml Reason.noElement.message ⟨1, 0⟩)

/-- The document of a source, after its declaration. -/
def Source.opening (source : Source) : Except Fault Opening :=
  match detect? source.toBytes with
  | none => .error (.xml Reason.unclosedToken.message ⟨1, 0⟩)
  | some (encoding, mark) => Opening.read source encoding mark

/-- The tree of a document. -/
def read (source : Source) : Except Fault Element := do
  (← source.opening).tree

end PlayerPage.Xml
