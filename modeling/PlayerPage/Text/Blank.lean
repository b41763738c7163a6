/-!
White space of every script and the removal of it at both ends of a text.

* `isBlank`: the blank characters.
* `trim`: a text without the blanks at its two ends.
-/

namespace PlayerPage.Text

/-- Blank characters: the ASCII blanks, the four information separators, the next-line control
and the space separators and line and paragraph separators of Unicode. -/
def isBlank (c : Char) : Bool :=
  let n := c.toNat
  (9 ≤ n && n ≤ 13) || (28 ≤ n && n ≤ 32) || n == 0x85 || n == 0xa0 || n == 0x1680 ||
    (0x2000 ≤ n && n ≤ 0x200a) || n == 0x2028 || n == 0x2029 || n == 0x202f || n == 0x205f ||
    n == 0x3000

/-- The text without its leading characters of class `p`. -/
def dropLeading (p : Char → Bool) (s : List Char) : List Char :=
  s.dropWhile p

/-- The text without its trailing characters of class `p`. -/
def dropTrailing (p : Char → Bool) (s : List Char) : List Char :=
  (s.reverse.dropWhile p).reverse

/-- The text without the characters of class `p` at its two ends. -/
def trimBy (p : Char → Bool) (s : List Char) : List Char :=
  dropTrailing p (dropLeading p s)

/-- The text without the blanks at its two ends. -/
def trim (s : List Char) : List Char :=
  trimBy isBlank s

end PlayerPage.Text
