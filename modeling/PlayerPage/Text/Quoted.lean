import PlayerPage.Text.Class
import PlayerPage.Text.Hex

/-!
Quoted forms of texts and of bytes, as they stand in messages.

* `quoted`: a text in single quotes, or in double quotes if it holds single but no double ones;
  line ends, tabs, backslashes and the quote itself are escaped, and so is every character
  without a shape of its own, by its number.
* `quotedBytes`: the same for bytes, after the letter `b`.
-/

namespace PlayerPage.Text

/-- The quotation mark for `s`. -/
def quoteMark (s : List Char) : Char :=
  if s.contains '\'' && !s.contains '"' then '"' else '\''

/-- The form of one character between the marks `mark`. -/
def escape (mark c : Char) : List Char :=
  if c == mark || c == '\\' then ['\\', c]
  else if c == '\n' then ['\\', 'n']
  else if c == '\r' then ['\\', 'r']
  else if c == '\t' then ['\\', 't']
  else if isPrintable c then [c]
  else if c.toNat < 0x100 then '\\' :: 'x' :: hex 2 c.toNat
  else if c.toNat < 0x10000 then '\\' :: 'u' :: hex 4 c.toNat
  else '\\' :: 'U' :: hex 8 c.toNat

/-- The quoted form of a text. -/
def quoted (s : List Char) : List Char :=
  let mark := quoteMark s
  mark :: (s.flatMap (escape mark) ++ [mark])

/-- The form of one byte between the marks `mark`: an ASCII character with a shape stands for
itself, any other byte is given by its number. -/
def escapeByte (mark : Char) (b : UInt8) : List Char :=
  if b < 0x80 then escape mark (Char.ofNat b.toNat) else '\\' :: 'x' :: hex 2 b.toNat

/-- The quoted form of bytes. -/
def quotedBytes (bytes : List UInt8) : List Char :=
  let mark := quoteMark (bytes.map fun b => Char.ofNat b.toNat)
  'b' :: mark :: (bytes.flatMap (escapeByte mark) ++ [mark])

end PlayerPage.Text
