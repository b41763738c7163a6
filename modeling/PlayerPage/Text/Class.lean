import PlayerPage.Text.Ranges
import PlayerPage.Text.Table.Digit
import PlayerPage.Text.Table.Printable
import PlayerPage.Text.Table.Word

/-!
Classes of characters, for every script.

* `isPrintable`: characters that a quoted text shows as they are.
* `isWord`: letters, numbers and the underscore.
* `digitValue?`: the value of a decimal digit.
-/

namespace PlayerPage.Text

/-- Characters that a quoted text shows as they are; of the blanks only the plain space. -/
def isPrintable (c : Char) : Bool :=
  inRanges c.toNat Table.printable

/-- Letters, numbers and the underscore. -/
def isWord (c : Char) : Bool :=
  c == '_' || inRanges c.toNat Table.alphanumeric

/-- The value of a decimal digit, whatever its script. -/
def digitValue? (c : Char) : Option Nat :=
  let rec search (n : Nat) : List (Nat × Nat) → Option Nat
    | [] => none
    | (first, last) :: rest =>
      if n < first then none
      else if n ≤ last then some ((n - first) % 10)
      else search n rest
  search c.toNat Table.decimalDigit

end PlayerPage.Text
