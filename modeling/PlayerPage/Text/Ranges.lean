/-!
Sets of characters given by ranges of code points.

* `inRanges`: whether a code point lies in one of the ranges of an increasing list.
-/

namespace PlayerPage.Text

/-- Whether `n` lies in one of the ranges `(first, last)`. The list is increasing, so the search
ends at the first range that starts above `n`. -/
def inRanges (n : Nat) : List (Nat × Nat) → Bool
  | [] => false
  | (first, last) :: rest => if n < first then false else n ≤ last || inRanges n rest

end PlayerPage.Text
