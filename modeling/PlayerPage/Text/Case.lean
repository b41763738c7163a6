import PlayerPage.Text.Ranges
import PlayerPage.Text.Table.Case

/-!
Lower and upper case of a text, for every script.

* `toLower`, `toUpper`: the full mappings, where one character may become several.
* A capital sigma becomes the final form at the end of a word (`endsWord`).
-/

namespace PlayerPage.Text

/-- The image of `n` under the run that holds it, if there is one. -/
def mapRuns (n : Nat) : List (Nat × Nat × Nat × Int) → Option Nat
  | [] => none
  | (first, last, step, shift) :: rest =>
    if first ≤ n && n ≤ last && (n - first) % step == 0 then some (n + shift).toNat
    else mapRuns n rest

/-- The case form of one character: by its own sequence, by its run, or the character itself. -/
def mapCase (sequences : List (Nat × List Nat)) (runs : List (Nat × Nat × Nat × Int))
    (c : Char) : List Char :=
  match sequences.lookup c.toNat with
  | some cs => cs.map Char.ofNat
  | none =>
    match mapRuns c.toNat runs with
    | some n => [Char.ofNat n]
    | none => [c]

/-- Whether the first character that is not case-ignorable is cased. -/
def startsCased (s : List Char) : Bool :=
  match s.dropWhile (fun c => inRanges c.toNat Table.caseIgnorable) with
  | [] => false
  | c :: _ => inRanges c.toNat Table.cased

/-- Whether a sigma between `before` (nearest character first) and `after` ends a word. -/
def endsWord (before after : List Char) : Bool :=
  startsCased before && !startsCased after

/-- Lower case of `s`, after the characters `before` (nearest first). -/
def toLowerAfter (before : List Char) : List Char → List Char
  | [] => []
  | c :: rest =>
    let image :=
      if c == 'Σ' then [if endsWord before rest then 'ς' else 'σ']
      else if c.toNat < 0x80 then [c.toLower]
      else mapCase Table.lowerSequences Table.lowerRuns c
    image ++ toLowerAfter (c :: before) rest

/-- Lower case of a text. -/
def toLower (s : List Char) : List Char :=
  toLowerAfter [] s

/-- Upper case of a text. -/
def toUpper (s : List Char) : List Char :=
  s.flatMap fun c =>
    if c.toNat < 0x80 then [c.toUpper] else mapCase Table.upperSequences Table.upperRuns c

end PlayerPage.Text
