/-!
Parts of encoded texts: what a decoder finds in bytes, one part after the other.

* `Reason`, `Fault`: why bytes are no text, and where.
* `Part`: a character, half of a pair of code units that stands alone, or a fault.
* `Part.textOf`: the text of parts. Halves that stand alone are forgiven, but if there is a fault
  beside them, the first of all counts.
-/

namespace PlayerPage.Text

/-- Why bytes are no text. -/
inductive Reason where
  | startByte
  | continuationByte
  | endOfData
  | truncated
  | secondHalf
  | firstHalf
  | halves
  | beyond
  deriving DecidableEq, Repr

/-- The text of a reason in messages. -/
def Reason.message : Reason → String
  | .startByte => "invalid start byte"
  | .continuationByte => "invalid continuation byte"
  | .endOfData => "unexpected end of data"
  | .truncated => "truncated data"
  | .secondHalf => "illegal encoding"
  | .firstHalf => "illegal UTF-16 surrogate"
  | .halves => "code point in surrogate code point range(0xd800, 0xe000)"
  | .beyond => "code point not in range(0x110000)"

/-- A fault in bytes: where it starts and ends, and its reason. -/
structure Fault where
  start : Nat
  stop : Nat
  reason : Reason
  deriving DecidableEq, Repr

/-- What a decoder finds in bytes. -/
inductive Part where
  | char (c : Char)
  /-- Half of a pair of code units that stands alone. -/
  | half (fault : Fault)
  | broken (fault : Fault)
  deriving DecidableEq, Repr

namespace Part

/-- The fault that a part is. -/
def fault? : Part → Option Fault
  | .char _ => none
  | .half fault | .broken fault => some fault

/-- Whether a part cannot be forgiven. -/
def isBroken : Part → Bool
  | .broken _ => true
  | _ => false

/-- The character of a part; U+FFFD in place of what is none. -/
def toChar : Part → Char
  | .char c => c
  | _ => '\uFFFD'

/-- The text of parts. Halves that stand alone are forgiven, but if there is a fault beside them,
the first of all counts. -/
def textOf (parts : List Part) : Except Fault (List Char) :=
  if parts.any isBroken then
    match parts.findSome? fault? with
    | some fault => .error fault
    | none => .ok []
  else .ok (parts.map toChar)

end Part

end PlayerPage.Text
