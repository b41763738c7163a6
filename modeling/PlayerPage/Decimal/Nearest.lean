/-!
Floating-point numbers from decimal notation.

* `nearest`: the floating-point number nearest to a decimal one.
-/

namespace PlayerPage.Decimal

/-- The floating-point number nearest to `n * 10 ^ exponent`. Beyond four hundred decimal places
on either side of the point there are only the infinite number and zero. -/
def nearest (n : Nat) (exponent : Int) : Float :=
  let places := (Nat.toDigits 10 n).length + exponent
  if n == 0 || places < -400 then 0.0
  else if 400 < places then 1.0 / 0.0
  else if exponent < 0 then Float.ofScientific n true exponent.natAbs
  else Float.ofScientific n false exponent.natAbs

end PlayerPage.Decimal
