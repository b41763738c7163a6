import PlayerPage.Text.Blank
import PlayerPage.Text.Class

/-!
Integers in decimal notation.

* `render`: the digits of an integer, after a minus sign if it is negative.
* `read`: the integer that a text denotes: an optional sign and digits of any script, with blanks
  around them and single underscores between them; at most `maxDigits` digits are read.
-/

namespace PlayerPage.Decimal.Integer

/-- The digits of an integer, after a minus sign if it is negative. -/
def render (n : Int) : List Char :=
  if n < 0 then '-' :: Nat.toDigits 10 n.natAbs else Nat.toDigits 10 n.natAbs

/-- The longest run of digits that is read as an integer. -/
def maxDigits : Nat := 4300

/-- Why a text denotes no integer. -/
inductive Flaw where
  | malformed
  | tooLong (digits : Nat)
  deriving DecidableEq, Repr

/-- The blanks around an integer in ASCII notation. -/
def isAsciiBlank (c : Char) : Bool :=
  c == ' ' || (9 ≤ c.toNat && c.toNat ≤ 13)

/-- A text in the notation of ASCII: blanks become spaces and digits become those of ASCII; any
other character becomes a question mark, which no integer holds. A text of ASCII alone stays as
it is, so that its information separators are no blanks. -/
def toAscii (s : List Char) : List Char :=
  if s.all (·.toNat < 0x80) then s
  else
    s.map fun c =>
      if c.toNat < 0x7f then c
      else if Text.isBlank c then ' '
      else
        match Text.digitValue? c with
        | some d => Char.ofNat (48 + d)
        | none => '?'

/-- The sign at the front of a text: whether it is a minus, and what follows. -/
def sign : List Char → Bool × List Char
  | '-' :: rest => (true, rest)
  | '+' :: rest => (false, rest)
  | rest => (false, rest)

/-- Whether every underscore of a run of digits stands between two digits. -/
def spacedWell (digits : List Char) : Bool :=
  go true digits
where
  /-- `start` says that a digit has to come next. -/
  go (start : Bool) : List Char → Bool
    | [] => !start
    | c :: rest => if c == '_' then !start && go true rest else go false rest

/-- The number that a run of digits denotes, after the digits that make up `n`. -/
def value (n : Nat) : List Char → Nat
  | [] => n
  | c :: rest => value (n * 10 + (c.toNat - 48)) rest

/-- The integer that a text denotes. -/
def read (s : List Char) : Except Flaw Int :=
  let (negative, body) := sign ((toAscii s).dropWhile isAsciiBlank)
  let run := body.takeWhile fun c => c.isDigit || c == '_'
  let rest := body.dropWhile fun c => c.isDigit || c == '_'
  let digits := run.filter (· != '_')
  if !spacedWell run then .error .malformed
  else if maxDigits < digits.length then .error (.tooLong digits.length)
  else if !(rest.dropWhile isAsciiBlank).isEmpty then .error .malformed
  else
    let n := value 0 digits
    .ok (if negative then -(n : Int) else n)

end PlayerPage.Decimal.Integer
