import PlayerPage.Text.Hex
import PlayerPage.Text.Search
import PlayerPage.Text.Utf8
import PlayerPage.Value.Basic

/-!
Form texts: fields `name=value` with `&` between them, and percent escapes in names and values.

* `unescape`: the text that an escaped one stands for; escapes that are none stay as they are.
* `fields`: the fields of a form text, in order.
* `restoreSeparators`: the form text whose separators were themselves written as escapes.
* `get?`, `toMembers`: the last field of a name counts.
-/

namespace PlayerPage.Form

open Text

/-! ### Escapes -/

/-- The byte of two hexadecimal digits. -/
def hexByte? (high low : Char) : Option UInt8 := do
  some (UInt8.ofNat ((← hexValue? high) * 16 + (← hexValue? low)))

/-- What an escaped text is made of: bytes, which make up characters together with their
neighbours, and characters beyond ASCII. -/
inductive Part where
  | byte (b : UInt8)
  | char (c : Char)
  deriving DecidableEq, Repr

/-- The part that one character stands for by itself. -/
def Part.ofChar (c : Char) : Part :=
  if c.toNat < 0x80 then .byte (UInt8.ofNat c.toNat) else .char c

/-- The parts of an escaped text: a percent sign with two hexadecimal digits is one byte. -/
def partsOf : List Char → List Part
  | '%' :: a :: b :: rest =>
    match hexByte? a b with
    | some byte => .byte byte :: partsOf rest
    | none => .ofChar '%' :: partsOf (a :: b :: rest)
  | c :: rest => .ofChar c :: partsOf rest
  | [] => []

/-- The text of parts, where `pending` are the bytes just before them, the last one first. -/
def join (pending : List UInt8) : List Part → List Char
  | [] => Utf8.decode pending.reverse
  | .byte b :: rest => join (b :: pending) rest
  | .char c :: rest => Utf8.decode pending.reverse ++ c :: join [] rest

/-- The text that an escaped text stands for. -/
def unescape (s : List Char) : List Char :=
  join [] (partsOf s)

/-- The text of a name or value in a form, where a plus sign is a space. -/
def plain (s : List Char) : List Char :=
  unescape (s.map fun c => if c == '+' then ' ' else c)

/-! ### Fields -/

/-- The field that a piece of a form text is: name and value, which is empty without a `=`. -/
def field (piece : List Char) : String × String :=
  let (name, value) := cutAtChar '=' piece
  (String.ofList (plain name), String.ofList (plain value))

/-- The fields of a form text. Empty pieces are no fields. -/
def fields (s : List Char) : List (String × String) :=
  ((pieces '&' s).filter fun piece => !piece.isEmpty).map field

/-- The text in which every separator that is written as backslashes and `u0026` is an `&` again;
`slashes` backslashes stand in front of it. -/
def restoreFrom (slashes : Nat) : List Char → List Char
  | '\\' :: rest => restoreFrom (slashes + 1) rest
  | 'u' :: '0' :: '0' :: '2' :: '6' :: rest =>
    if slashes == 0 then 'u' :: '0' :: '0' :: '2' :: '6' :: restoreFrom 0 rest
    else '&' :: restoreFrom 0 rest
  | c :: rest => List.replicate slashes '\\' ++ c :: restoreFrom 0 rest
  | [] => List.replicate slashes '\\'

/-- The text in which every separator that is written as one or more backslashes and `u0026` is
an `&` again. -/
def restoreSeparators (s : List Char) : List Char :=
  restoreFrom 0 s

/-- The fields of a value that is a form text, with escaped separators if said so; no other value
has fields. -/
def ofValue (escapedSeparators : Bool) : Value → List (String × String)
  | .str s => fields (if escapedSeparators then restoreSeparators s.toList else s.toList)
  | _ => []

/-- The value of the last field `name`. -/
def get? (form : List (String × String)) (name : String) : Option String :=
  form.reverse.lookup name

/-- The form as an object, in which a name has the place of its first field. -/
def toMembers (form : List (String × String)) : Members :=
  Members.ofTexts form

end PlayerPage.Form
