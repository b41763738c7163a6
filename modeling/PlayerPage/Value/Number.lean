import PlayerPage.Decimal.Shortest
import PlayerPage.Value.Basic

/-!
Arithmetic on the numbers that values hold: integers of any size and floating-point numbers.

* `Number.ofValue?`: a truth value counts as zero or one.
* `Number.truncate`: the integral part of a finite floating-point number.
* `Number.mul?`, `Number.floorDiv?`: product, and quotient rounded down; an integer meets a
  floating-point number as the nearest one, and one beyond all of those has no result.
-/

namespace PlayerPage

open Decimal

/-- A number. -/
inductive Number where
  | int (n : Int)
  | float (x : Float)

namespace Number

/-- The number that a value is. -/
def ofValue? : Value → Option Number
  | .bool b => some (.int (if b then 1 else 0))
  | .int n => some (.int n)
  | .float x => some (.float x)
  | _ => none

/-- The value of a number. -/
def toValue : Number → Value
  | .int n => .int n
  | .float x => .float x

/-- The magnitude with its sign. -/
def signed (negative : Bool) (n : Nat) : Int :=
  if negative then -(n : Int) else n

/-- The integral part of a finite number. -/
def truncate (b : Shortest.Binary) : Int :=
  signed b.negative (b.significand * Nat.pow 2 b.exponent.toNat / Nat.pow 2 (-b.exponent).toNat)

/-- The floating-point number nearest to `n`, if there is a finite one. -/
def nearest? (n : Int) : Option Float :=
  let x := Float.ofScientific n.natAbs false 0
  if x.isInf then none else some (if n < 0 then -x else x)

/-- What is left of `x` after taking off `y` as often as it goes, with the sign of `x`. -/
def remainder (x y : Shortest.Binary) : Float :=
  let e := min x.exponent y.exponent
  let a := x.significand * Nat.pow 2 (x.exponent - e).toNat
  let b := y.significand * Nat.pow 2 (y.exponent - e).toNat
  let r := (Float.ofNat (a % b)).scaleB e
  if x.negative then -r else r

/-- A zero with the sign of `x`. -/
def zeroLike (x : Float) : Float :=
  if x < 0 || 1 / x < 0 then -0.0 else 0.0

/-- The quotient of floating-point numbers, rounded down, for a divisor other than zero. The
remainder is taken off first, so that the division comes out within one half of a whole number. -/
def floorDivFloat (x y : Float) : Float :=
  let rest :=
    match Shortest.kind x, Shortest.kind y with
    | .finite a, .finite b => remainder a b
    | .finite _, .infinite _ => x
    | _, _ => 0.0 / 0.0
  let quotient := (x - rest) / y
  let quotient := if rest != 0 && (y < 0) != (rest < 0) then quotient - 1 else quotient
  if quotient != 0 then
    let down := quotient.floor
    if quotient - down > 0.5 then down + 1 else down
  else zeroLike (x / y)

/-- The two numbers as floating-point numbers. -/
def floats? : Number → Number → Option (Float × Float)
  | .int m, .int n => do some (← nearest? m, ← nearest? n)
  | .int m, .float y => do some (← nearest? m, y)
  | .float x, .int n => do some (x, ← nearest? n)
  | .float x, .float y => some (x, y)

/-- The product. -/
def mul? : Number → Number → Option Number
  | .int m, .int n => some (.int (m * n))
  | a, b => (floats? a b).map fun (x, y) => .float (x * y)

/-- The quotient rounded down, for a divisor other than zero. -/
def floorDiv? : Number → Number → Option Number
  | .int m, .int n => some (.int (m.fdiv n))
  | a, b => (floats? a b).map fun (x, y) => .float (floorDivFloat x y)

/-- Equality of numbers, exact between the two kinds. -/
def equal : Number → Number → Bool
  | .int m, .int n => m == n
  | .float x, .float y => x == y
  | .int m, .float y => meets m y
  | .float x, .int n => meets n x
where
  /-- Whether the floating-point number `x` is the integer `n`. -/
  meets (n : Int) (x : Float) : Bool :=
    match Shortest.kind x with
    | .finite b =>
      let scale := (-b.exponent).toNat
      signed b.negative (b.significand * Nat.pow 2 b.exponent.toNat) == n * Nat.pow 2 scale
    | _ => false

end Number

end PlayerPage
