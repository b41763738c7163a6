import PlayerPage.Fault
import PlayerPage.Text.Blank
import PlayerPage.Value.Number

/-!
Readings of a value as one of another kind.

* `Value.integer`: the integer that a value denotes, or why it denotes none.
* `Value.toInt?`: the same where a truth value denotes none and the reason does not matter.
* `Value.scaledInt`: an integer times one factor and divided, rounded down, by another.
* `Value.text`, `Value.truth`, `Value.trimmed`: readings that leave a default.
* `Value.plus`: the sum of numbers, the concatenation of texts or lists.
-/

namespace PlayerPage.Value

open Decimal

/-- The integer that a text denotes. -/
def integerOfText (s : String) : Except Fault Int :=
  match Integer.read s.toList with
  | .ok n => .ok n
  | .error .malformed => .error (.badInteger s)
  | .error (.tooLong digits) => .error (.longInteger digits)

/-- The integer that a value denotes: of a floating-point number the integral part. -/
def integer : Value → Except Fault Int
  | .bool b => .ok (if b then 1 else 0)
  | .int n => .ok n
  | .float x =>
    match Shortest.kind x with
    | .finite b => .ok (Number.truncate b)
    | .infinite _ => .error .infiniteInteger
    | .undefined => .error .undefinedInteger
  | .str s => integerOfText s
  | v => .error (.notInteger v.kindName)

/-- The integer that a value denotes; a truth value denotes none. -/
def toInt? : Value → Option Int
  | .bool _ => none
  | v => v.integer.toOption

/-- What a number is asked for by name: its real or imaginary part, or that of the fraction that
it is. Other values have nothing under these names. -/
def numericPart (v : Value) (name : String) : Value :=
  match v with
  | .bool b => ofInteger (if b then 1 else 0)
  | .int n => ofInteger n
  | .float x =>
    if name == "real" then .float x
    else if name == "imag" then .float 0.0
    else .null
  | _ => .null
where
  /-- The parts of an integer. -/
  ofInteger (n : Int) : Value :=
    if name == "real" || name == "numerator" then .int n
    else if name == "imag" then .int 0
    else if name == "denominator" then .int 1
    else .null

/-- How an integer is read and scaled. -/
structure Scaling where
  /-- The part of the value that is read, if this counts as a yes. -/
  part : Value := .null
  factor : Value := .int 1
  divisor : Value := .int 1
  default : Value := .null

/-- The quotient of two numbers rounded down; none if one of them is too large. Nothing can be
divided by zero. -/
def quotient (a b : Number) : Except Fault (Option Number) :=
  match a, b with
  | .int _, .int n => if n == 0 then .error .integerDivision else .ok (a.floorDiv? b)
  | a, b =>
    match Number.floats? a b with
    | none => .ok none
    | some (_, y) => if y == 0 then .error .floatDivision else .ok (a.floorDiv? b)

/-- The integer that a value denotes times the factor, divided by the divisor and rounded down;
the default if there is no such number. -/
def scaledInt (scaling : Scaling) (v : Value) : Except Fault Value := do
  let v ←
    if scaling.part.holds && !v.isNull then
      match scaling.part with
      | .str name => pure (v.numericPart name)
      | part => throw (Fault.attributeName part.kindName)
    else pure v
  match v.toInt?, Number.ofValue? scaling.factor, Number.ofValue? scaling.divisor with
  | some n, some factor, some divisor =>
    match (Number.int n).mul? factor with
    | none => pure scaling.default
    | some product =>
      match ← quotient product divisor with
      | none => pure scaling.default
      | some number => pure number.toValue
  | _, _, _ => pure scaling.default

/-- The text of a value; the default for null. -/
def text (default : Value) : Value → Value
  | .null => default
  | v => .str v.display

/-- The text of a value, if it is not null. -/
def text? : Value → Option String
  | .null => none
  | v => some v.display

/-- A truth value; the default for any other value. -/
def truth (default : Value) : Value → Value
  | .bool b => .bool b
  | _ => default

/-- A text without the blanks at its ends; the default for any other value. -/
def trimmed (default : Value) : Value → Value
  | .str s => .str (String.ofList (Text.trim s.toList))
  | _ => default

/-- The sum of two floating-point readings. -/
def plusNumbers (a b : Number) : Except Fault Value :=
  match a, b with
  | .int m, .int n => .ok (.int (m + n))
  | a, b =>
    match Number.floats? a b with
    | some (x, y) => .ok (.float (x + y))
    | none => .error .hugeInteger

/-- The sum of numbers, or the concatenation of two texts, lists, tuples or byte sequences. -/
def plus (v w : Value) : Except Fault Value :=
  match v, w with
  | .str s, .str t => .ok (.str (s ++ t))
  | .str _, w => .error (.joinText w.kindName)
  | .list xs, .list ys => .ok (.list (xs ++ ys))
  | .list _, w => .error (.joinList w.kindName)
  | .tuple xs, .tuple ys => .ok (.tuple (xs ++ ys))
  | .tuple _, w => .error (.joinTuple w.kindName)
  | .bytes a, .bytes b => .ok (.bytes (a ++ b))
  | .bytes _, w => .error (.joinBytes w.kindName)
  | v, w =>
    match Number.ofValue? v, Number.ofValue? w with
    | some a, some b => plusNumbers a b
    | _, _ => .error (.noSum v.kindName w.kindName)

end PlayerPage.Value
