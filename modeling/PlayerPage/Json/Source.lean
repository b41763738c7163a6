import PlayerPage.Json.Parser
import PlayerPage.Text.Wide

/-!
Where JSON texts come from: decoded texts, and bytes whose encoding shows in their first bytes.

* `Encoding`, `Encoding.ofBytes`: the encoding of the bytes of a document, from a byte order mark
  or from the zero bytes among the first four.
* `load`: the value of the document that a value is; only texts and bytes are documents.
-/

namespace PlayerPage.Json

open Text (Wide.Order)

/-- The encodings of documents; `marked` ones start with a byte order mark. -/
inductive Encoding where
  | utf8 (marked : Bool)
  | utf16 (order : Wide.Order) (marked : Bool)
  | utf32 (order : Wide.Order) (marked : Bool)
  deriving DecidableEq, Repr

/-- The encoding of the bytes of a document. The first characters of a document are ASCII, so
that a zero byte tells the size and the order of the code units. -/
def Encoding.ofBytes : List UInt8 → Encoding
  | 0x00 :: 0x00 :: 0xfe :: 0xff :: _ => .utf32 .high true
  | 0xff :: 0xfe :: 0x00 :: 0x00 :: _ => .utf32 .low true
  | 0xfe :: 0xff :: _ => .utf16 .high true
  | 0xff :: 0xfe :: _ => .utf16 .low true
  | 0xef :: 0xbb :: 0xbf :: _ => .utf8 true
  | a :: b :: c :: d :: _ =>
    if a == 0 then if b != 0 then .utf16 .high false else .utf32 .high false
    else if b == 0 then if c != 0 || d != 0 then .utf16 .low false else .utf32 .low false
    else .utf8 false
  | [a, b] =>
    if a == 0 then .utf16 .high false
    else if b == 0 then .utf16 .low false
    else .utf8 false
  | _ => .utf8 false

/-- The name of an encoding in messages; the byte order shows in the name. -/
def Encoding.name : Encoding → String
  | .utf8 _ => "utf-8"
  | .utf16 .high _ => "utf-16-be"
  | .utf16 .low _ => "utf-16-le"
  | .utf32 .high _ => "utf-32-be"
  | .utf32 .low _ => "utf-32-le"

/-- The text of the bytes of a document. -/
def textOf (bytes : List UInt8) : Except Fault (List Char) :=
  let encoding := Encoding.ofBytes bytes
  let (bytes, parts) :=
    match encoding with
    | .utf8 marked =>
      let bytes := if marked then bytes.drop 3 else bytes
      (bytes, Text.Utf8.parts bytes)
    | .utf16 order marked =>
      let mark := if marked then 2 else 0
      (bytes, Text.Wide.parts16 order mark (bytes.drop mark))
    | .utf32 order marked =>
      let mark := if marked then 4 else 0
      (bytes, Text.Wide.parts32 order mark (bytes.drop mark))
  (Text.Part.textOf parts).mapError fun e =>
    .undecodable encoding.name bytes e.start e.stop e.reason.message

/-- The value of the document that a value is. -/
def load : Value → Except Fault Value
  | .str s => parse s
  | .bytes b => do parseDecoded (← textOf b)
  | v => .error (.jsonKind v.kindName)

end PlayerPage.Json
