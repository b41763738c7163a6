/-!
Binary floating-point numbers as exact fractions, and their shortest decimal form.

* `Binary`: a finite number as sign, significand and binary exponent; `Binary.ofFloat?`.
* `digits`: the fewest decimal digits that read back as the number, nearest to it of those.
* `Notation`, `render`: how such digits are laid out, with or without an exponent.
-/

namespace PlayerPage.Decimal.Shortest

/-- The magnitude `significand * 2 ^ exponent` of a finite number, with its sign. -/
structure Binary where
  negative : Bool
  significand : Nat
  exponent : Int
  deriving Repr

/-- The kinds of floating-point numbers. -/
inductive Kind where
  | finite (x : Binary)
  | infinite (negative : Bool)
  | undefined

/-- A number taken apart: one sign bit, eleven exponent bits, fifty-two significand bits. -/
def kind (x : Float) : Kind :=
  let bits := x.toBits.toNat
  let negative := bits / Nat.pow 2 63 == 1
  let biased : Nat := bits / Nat.pow 2 52 % Nat.pow 2 11
  let fraction : Nat := bits % Nat.pow 2 52
  if biased == 2047 then
    if fraction == 0 then .infinite negative else .undefined
  else if biased == 0 then .finite ⟨negative, fraction, -1074⟩
  else .finite ⟨negative, Nat.pow 2 52 + fraction, (biased : Int) - 1075⟩

/-- A decimal magnitude `0.d₁d₂… * 10 ^ point`, its digits read as one number with `count`
digits. -/
structure Digits where
  number : Nat
  count : Nat
  point : Int
  deriving Repr

/-- `a * 2 ^ p * 10 ^ q` against `b`, as two naturals to be compared: powers with negative
exponents go to the other side. -/
def scaled (a : Nat) (p : Int) (b : Nat) (q : Int) : Nat × Nat :=
  (a * Nat.pow 2 p.toNat * Nat.pow 10 (-q).toNat, b * Nat.pow 2 (-p).toNat * Nat.pow 10 q.toNat)

/-- The ends of the interval of reals that read back as `significand * 2 ^ exponent`, in units of
`2 ^ (exponent - 2)`, and whether the ends belong to it. The lower end is nearer when the number
is the least of its binary order. -/
def interval (x : Binary) : Nat × Nat × Bool :=
  let m := 4 * x.significand
  let low := if x.significand == Nat.pow 2 52 && x.exponent != -1074 then m - 1 else m - 2
  (low, m + 2, x.significand % 2 == 0)

/-- Whether `n * 10 ^ q` reads back as `x`. -/
def readsBack (x : Binary) (n : Nat) (q : Int) : Bool :=
  let (low, high, closed) := interval x
  let (l, a) := scaled low (x.exponent - 2) n q
  let (h, b) := scaled high (x.exponent - 2) n q
  if closed then l ≤ a && b ≤ h else l < a && b < h

/-- The number of decimal digits of `n`. -/
def width (n : Nat) : Nat :=
  (Nat.toDigits 10 n).length

/-- The power of ten just above `x`: the least `k` with `x < 10 ^ k`, found from an estimate that
is at most one too small. -/
def magnitude (x : Binary) : Int :=
  let (a, b) := scaled x.significand x.exponent 1 0
  let k := (width a : Int) - (width b : Int)
  let (u, v) := scaled x.significand x.exponent 1 k
  if u < v then k else k + 1

/-- The multiple of `10 ^ q` that reads back as `x`, if one of the two neighbours of `x` on that
grid does; of two the nearer, and of two equally near the even one. -/
def onGrid? (x : Binary) (q : Int) : Option Nat :=
  let (a, b) := scaled x.significand x.exponent 1 q
  let below := a / b
  let rest := a % b
  let lowOk := readsBack x below q
  let highOk := readsBack x (below + 1) q
  if lowOk && highOk then
    if 2 * rest < b || (2 * rest == b && below % 2 == 0) then some below else some (below + 1)
  else if lowOk then some below
  else if highOk then some (below + 1)
  else none

/-- The first of the grids with `tried + 1`, `tried + 2`, … digits on which `x` has a neighbour
that reads back. Seventeen digits are always enough. -/
def search (x : Binary) (top : Int) (tried : Nat) : Nat → Digits
  | 0 => ⟨x.significand, width x.significand, width x.significand⟩
  | more + 1 =>
    match onGrid? x (top - (tried + 1 : Nat)) with
    | some n =>
      let w := width n
      ⟨n, w, top - (tried + 1 : Nat) + w⟩
    | none => search x top (tried + 1) more

/-- The fewest decimal digits that read back as `x`. -/
def digits (x : Binary) : Digits :=
  if x.significand == 0 then ⟨0, 1, 1⟩ else search x (magnitude x) 0 17

/-- How a floating-point number is written. -/
structure Notation where
  /-- Decimal points from this position up to `positionalTo` are written out. -/
  positionalFrom : Int
  positionalTo : Int
  /-- What follows an integral number that is written out. -/
  integralSuffix : String
  /-- The mark before the exponent, and the least number of its digits. -/
  exponentMark : String
  exponentDigits : Nat
  /-- The texts of the infinite number and of the undefined one. -/
  infinite : String
  undefined : String

/-- `text` with zeros in front up to `count` characters. -/
def padded (count : Nat) (text : List Char) : List Char :=
  List.replicate (count - text.length) '0' ++ text

/-- The digits of a magnitude without its trailing zeros. -/
def significant (d : Digits) : List Char :=
  match ((Nat.toDigits 10 d.number).reverse.dropWhile (· == '0')).reverse with
  | [] => ['0']
  | cs => cs

/-- The digits with a decimal point after the first `point` of them. -/
def positional (style : Notation) (ds : List Char) (point : Int) : List Char :=
  if point ≤ 0 then '0' :: '.' :: (List.replicate (-point).toNat '0' ++ ds)
  else if (ds.length : Int) ≤ point then
    ds ++ List.replicate (point.toNat - ds.length) '0' ++ style.integralSuffix.toList
  else ds.take point.toNat ++ '.' :: ds.drop point.toNat

/-- The digits with a decimal point after the first one, and an exponent. -/
def scientific (style : Notation) (ds : List Char) (point : Int) : List Char :=
  let exponent := point - 1
  let mantissa :=
    match ds with
    | [] => []
    | d :: [] => [d]
    | d :: more => d :: '.' :: more
  mantissa ++ style.exponentMark.toList ++ (if exponent < 0 then ['-'] else ['+']) ++
    padded style.exponentDigits (Nat.toDigits 10 exponent.natAbs)

/-- The text of a floating-point number. -/
def render (style : Notation) (x : Float) : List Char :=
  match kind x with
  | .undefined => style.undefined.toList
  | .infinite negative => (if negative then ['-'] else []) ++ style.infinite.toList
  | .finite b =>
    let d := digits b
    let ds := significant d
    (if b.negative then ['-'] else []) ++
      if style.positionalFrom ≤ d.point && d.point ≤ style.positionalTo
      then positional style ds d.point
      else scientific style ds d.point

end PlayerPage.Decimal.Shortest
