import PlayerPage.Decimal.Integer
import PlayerPage.Decimal.Shortest
import PlayerPage.Text.Quoted
import PlayerPage.Value.Basic

/-!
The texts of values in messages.

* `Value.literal`: the text that shows a value with its kind: strings are quoted, lists stand in
  brackets, tuples in parentheses and objects in braces.
* `Value.display`: the same, but a string stands for itself.
-/

namespace PlayerPage.Value

open Text Decimal

/-- Floating-point numbers are written out below `10 ^ 16` and from `10 ^ -4` on, keep a zero
after the point, and have exponents of at least two digits with a sign. -/
def floatNotation : Shortest.Notation where
  positionalFrom := -3
  positionalTo := 16
  integralSuffix := ".0"
  exponentMark := "e"
  exponentDigits := 2
  infinite := "inf"
  undefined := "nan"

/-- The parts, each but the last followed by a comma and a space. -/
def commas : List (List Char) → List Char
  | [] => []
  | [part] => part
  | part :: rest => part ++ ',' :: ' ' :: commas rest

mutual

/-- The text that shows a value with its kind. -/
def literalChars : Value → List Char
  | .null => "None".toList
  | .bool b => (if b then "True" else "False").toList
  | .int n => Integer.render n
  | .float x => Shortest.render floatNotation x
  | .str s => quoted s.toList
  | .bytes b => quotedBytes b
  | .list xs => '[' :: (commas (literals xs) ++ [']'])
  | .tuple xs =>
    match literals xs with
    | [x] => '(' :: (x ++ [',', ')'])
    | xs => '(' :: (commas xs ++ [')'])
  | .object ms => '{' :: (commas (memberLiterals ms) ++ ['}'])

/-- The texts of the values of a list. -/
def literals : List Value → List (List Char)
  | [] => []
  | x :: xs => literalChars x :: literals xs

/-- The texts of the members of an object: name, colon, value. -/
def memberLiterals : List (String × Value) → List (List Char)
  | [] => []
  | (k, v) :: ms => (quoted k.toList ++ ':' :: ' ' :: literalChars v) :: memberLiterals ms

end

/-- The text that shows a value with its kind. -/
def literal (v : Value) : String :=
  String.ofList v.literalChars

/-- The text of a value: a string stands for itself, any other value is shown. -/
def display : Value → String
  | .str s => s
  | v => v.literal

end PlayerPage.Value
