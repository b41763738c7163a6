import PlayerPage.Value.Literal

/-!
Writing values as JSON texts.

* `render`: a value on one line, in ASCII, with a space after each comma and colon; the
  floating-point numbers without a value are `NaN` and `Infinity`.
-/

namespace PlayerPage.Json

open Decimal

/-- Floating-point numbers are written as in other messages, but for the infinite one and the
undefined one. -/
def floatNotation : Shortest.Notation :=
  { Value.floatNotation with infinite := "Infinity", undefined := "NaN" }

/-- The escape of a code unit. -/
def escapeUnit (n : Nat) : List Char :=
  '\\' :: 'u' :: Text.hex 4 n

/-- The form of one character in a string. A character beyond the first plane is a pair of code
units. -/
def escape (c : Char) : List Char :=
  if c == '"' || c == '\\' then ['\\', c]
  else if c == '\n' then ['\\', 'n']
  else if c == '\r' then ['\\', 'r']
  else if c == '\t' then ['\\', 't']
  else if c == '\x0c' then ['\\', 'f']
  else if c == '\x08' then ['\\', 'b']
  else if 0x20 ≤ c.toNat && c.toNat < 0x7f then [c]
  else if c.toNat < 0x10000 then escapeUnit c.toNat
  else
    let n := c.toNat - 0x10000
    escapeUnit (0xd800 + n / 0x400) ++ escapeUnit (0xdc00 + n % 0x400)

/-- The form of a string. -/
def quote (s : List Char) : List Char :=
  '"' :: (s.flatMap escape ++ ['"'])

mutual

/-- The form of a value; bytes are shown in a string. -/
def renderChars : Value → List Char
  | .null => "null".toList
  | .bool b => (if b then "true" else "false").toList
  | .int n => Integer.render n
  | .float x => Shortest.render floatNotation x
  | .str s => quote s.toList
  | .bytes b => quote (Text.quotedBytes b)
  | .list xs | .tuple xs => '[' :: (Value.commas (renderItems xs) ++ [']'])
  | .object ms => '{' :: (Value.commas (renderMembers ms) ++ ['}'])

/-- The forms of the items of a list. -/
def renderItems : List Value → List (List Char)
  | [] => []
  | x :: xs => renderChars x :: renderItems xs

/-- The forms of the members of an object: name, colon, value. -/
def renderMembers : List (String × Value) → List (List Char)
  | [] => []
  | (k, v) :: ms => (quote k.toList ++ ':' :: ' ' :: renderChars v) :: renderMembers ms

end

/-- The JSON text of a value. -/
def render (v : Value) : String :=
  String.ofList (renderChars v)

end PlayerPage.Json
