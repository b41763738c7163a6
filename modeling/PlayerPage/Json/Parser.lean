import PlayerPage.Decimal.Integer
import PlayerPage.Decimal.Nearest
import PlayerPage.Fault
import PlayerPage.Text.Hex
import PlayerPage.Text.Search

/-!
Reading JSON texts.

* `Flaw`: what keeps a text from being a JSON document, with the number of characters that were
  left where this was noticed.
* `string`, `number`, `value`: the parts of a document, each of them read off the front of a text.
* `parse`: the value of a whole text. Besides the numbers of the standard there are `NaN`,
  `Infinity` and `-Infinity`; of members of one name the last counts, in the place of the first.

Lists and objects may be nested to any depth: as the standard sets none, no limit is modelled here,
also not the one that the recursion of the program that runs the reader is under.
-/

namespace PlayerPage.Json

/-- What a text has in place of what has to stand there. -/
inductive Mismatch where
  | value
  | name
  | colon
  | comma
  | control
  | unterminated
  | escape
  | unicodeEscape
  | extra
  | byteOrderMark
  deriving DecidableEq, Repr

/-- The words for a mismatch. -/
def Mismatch.message : Mismatch → String
  | .value => "Expecting value"
  | .name => "Expecting property name enclosed in double quotes"
  | .colon => "Expecting ':' delimiter"
  | .comma => "Expecting ',' delimiter"
  | .control => "Invalid control character at"
  | .unterminated => "Unterminated string starting at"
  | .escape => "Invalid \\escape"
  | .unicodeEscape => "Invalid \\uXXXX escape"
  | .extra => "Extra data"
  | .byteOrderMark => "Unexpected UTF-8 BOM (decode using utf-8-sig)"

/-- Why a text is no JSON document. -/
inductive Flaw where
  | mismatch (what : Mismatch) (left : Nat)
  | longInteger (digits : Nat)
  deriving DecidableEq, Repr

/-- The failure at the front of `rest`. -/
def mismatch {α : Type} (what : Mismatch) (rest : List Char) : Except Flaw α :=
  .error (.mismatch what rest.length)

/-- Whether a character may stand between the parts of a document. -/
def isSpace (c : Char) : Bool :=
  c == ' ' || c == '\t' || c == '\n' || c == '\r'

/-- The text without the spaces at its front. -/
def skipSpaces (s : List Char) : List Char :=
  s.dropWhile isSpace

/-! ### Strings -/

/-- The number of the four hexadecimal digits at the front of a text. -/
def hexNumber? : List Char → Option Nat
  | a :: b :: c :: d :: _ => do
    let high := (← Text.hexValue? a) * 16 + (← Text.hexValue? b)
    let low := (← Text.hexValue? c) * 16 + (← Text.hexValue? d)
    some (high * 256 + low)
  | _ => none

/-- The first half of a pair of code units. -/
def isHighHalf (n : Nat) : Bool :=
  0xd800 ≤ n && n < 0xdc00

/-- The second half of a pair of code units. -/
def isLowHalf (n : Nat) : Bool :=
  0xdc00 ≤ n && n < 0xe000

/-- The character of one code unit; a half pair has none. -/
def unitChar (n : Nat) : Char :=
  if isHighHalf n || isLowHalf n then '\uFFFD' else Char.ofNat n

/-- The character whose escape has `digits` at the front, which stand after the text `mark` and
its `u`, and the number of characters of `digits` that it takes. Two escapes may make up a pair.
Something has to follow the four digits of an escape. -/
def unicodeEscape (digits : List Char) : Except Flaw (Char × Nat) :=
  let failure (rest : List Char) : Except Flaw (Char × Nat) :=
    .error (.mismatch .unicodeEscape (rest.length + 1))
  if (digits.drop 4).isEmpty then failure digits
  else
    match hexNumber? digits with
    | none => failure digits
    | some n =>
      match isHighHalf n, digits.drop 4 with
      | true, '\\' :: 'u' :: second =>
        if (second.drop 4).isEmpty then .ok (unitChar n, 4)
        else
          match hexNumber? second with
          | none => failure second
          | some m =>
            if isLowHalf m then
              .ok (Char.ofNat (0x10000 + (n - 0xd800) * 0x400 + (m - 0xdc00)), 10)
            else .ok (unitChar n, 4)
      | _, _ => .ok (unitChar n, 4)

/-- The character of an escape of one letter. -/
def letterEscape? (c : Char) : Option Char :=
  if c == '"' || c == '\\' || c == '/' then some c
  else if c == 'b' then some '\x08'
  else if c == 'f' then some '\x0c'
  else if c == 'n' then some '\n'
  else if c == 'r' then some '\r'
  else if c == 't' then some '\t'
  else none

/-- The rest of a string after its opening quote, which stood with `start` characters left. The
first `skip` characters belong to an escape that has been read. -/
def string (start skip : Nat) : List Char → Except Flaw (List Char × List Char)
  | [] => .error (.mismatch .unterminated start)
  | c :: rest =>
    match skip with
    | skip + 1 => string start skip rest
    | 0 =>
      if c == '"' then .ok ([], rest)
      else if c == '\\' then
        match rest with
        | [] => .error (.mismatch .unterminated start)
        | 'u' :: digits => do
          let (d, size) ← unicodeEscape digits
          let (s, rest) ← string start (size + 1) rest
          pure (d :: s, rest)
        | letter :: _ =>
          match letterEscape? letter with
          | none => mismatch .escape (c :: rest)
          | some d => do
            let (s, rest) ← string start 1 rest
            pure (d :: s, rest)
      else if c.toNat ≤ 0x1f then mismatch .control (c :: rest)
      else do
        let (s, rest) ← string start 0 rest
        pure (c :: s, rest)

/-! ### Numbers -/

/-- The number that decimal digits denote. -/
def ofDigits (digits : List Char) : Nat :=
  Decimal.Integer.value 0 digits

/-- The digits at the front of a text, and what follows them. -/
def spanDigits (s : List Char) : List Char × List Char :=
  s.span Char.isDigit

/-- The integral part of a number: a zero alone, or digits that do not start with one. -/
def integral? : List Char → Option (List Char × List Char)
  | '0' :: rest => some (['0'], rest)
  | s =>
    match spanDigits s with
    | ([], _) => none
    | found => some found

/-- The digits after a point; none if no digit follows the point. -/
def fraction : List Char → List Char × List Char
  | '.' :: rest =>
    match spanDigits rest with
    | ([], _) => ([], '.' :: rest)
    | found => found
  | s => ([], s)

/-- The exponent of a number, if there is one with at least one digit. -/
def exponent? (s : List Char) : Option (Int × List Char) :=
  match s with
  | [] => none
  | mark :: rest =>
    if mark == 'e' || mark == 'E' then
      let (negative, rest) := Decimal.Integer.sign rest
      match spanDigits rest with
      | ([], _) => none
      | (digits, rest) =>
        let n : Int := ofDigits digits
        some (if negative then -n else n, rest)
    else none

/-- The number at the front of a text, after its sign. -/
def unsigned? (s : List Char) : Option (Except Flaw (Bool → Value) × List Char) := do
  let (whole, rest) ← integral? s
  let (part, rest) := fraction rest
  match part, exponent? rest with
  | [], none =>
    let read :=
      if Decimal.Integer.maxDigits < whole.length then .error (Flaw.longInteger whole.length)
      else
        let n : Int := ofDigits whole
        .ok fun negative => .int (if negative then -n else n)
    some (read, rest)
  | part, found =>
    let (exponent, rest) := found.getD (0, rest)
    let x := Decimal.nearest (ofDigits (whole ++ part)) (exponent - part.length)
    some (.ok fun negative => .float (if negative then -x else x), rest)

/-- The number at the front of a text. -/
def number (s : List Char) : Except Flaw (Value × List Char) :=
  let (negative, body) :=
    match s with
    | '-' :: rest => (true, rest)
    | s => (false, s)
  match unsigned? body with
  | none => mismatch .value s
  | some (read, rest) => read.map fun make => (make negative, rest)

/-! ### Documents -/

/-- The words that stand for values. -/
def words : List (List Char × Value) :=
  [("null".toList, .null), ("true".toList, .bool true), ("false".toList, .bool false),
    ("NaN".toList, .float (0.0 / 0.0)), ("Infinity".toList, .float (1.0 / 0.0)),
    ("-Infinity".toList, .float (-1.0 / 0.0))]

/-- The word or number at the front of a text. -/
def scalar (s : List Char) : Except Flaw (Value × List Char) :=
  match words.findSome? fun (word, v) => (Text.after? word s).map fun rest => (v, rest) with
  | some found => .ok found
  | none => number s

mutual

/-- The value at the front of a text. A list or an object takes two steps, one for itself and one
for its items, and a character for each item besides; so twice the length of the text bounds the
number of steps. -/
def value : (steps : Nat) → List Char → Except Flaw (Value × List Char)
  | 0, s => mismatch .value s
  | steps + 1, s =>
    match s with
    | '"' :: rest => do
      let (text, rest) ← string s.length 0 rest
      pure (.str (String.ofList text), rest)
    | '{' :: rest =>
      match skipSpaces rest with
      | '}' :: rest => .ok (.object [], rest)
      | rest => do
        let (ms, rest) ← members steps rest
        pure (.object (Members.ofAssignments ms), rest)
    | '[' :: rest =>
      match skipSpaces rest with
      | ']' :: rest => .ok (.list [], rest)
      | rest => do
        let (items, rest) ← items steps rest
        pure (.list items, rest)
    | s => scalar s

/-- The members of an object, up to its end. -/
def members : (steps : Nat) → List Char → Except Flaw (List (String × Value) × List Char)
  | 0, s => mismatch .name s
  | steps + 1, s =>
    match s with
    | '"' :: rest => do
      let (name, rest) ← string s.length 0 rest
      let name := String.ofList name
      match skipSpaces rest with
      | ':' :: rest => do
        let (v, rest) ← value steps (skipSpaces rest)
        match skipSpaces rest with
        | '}' :: rest => .ok ([(name, v)], rest)
        | ',' :: rest => do
          let (more, rest) ← members steps (skipSpaces rest)
          pure ((name, v) :: more, rest)
        | rest => mismatch .comma rest
      | rest => mismatch .colon rest
    | s => mismatch .name s

/-- The items of a list, up to its end. -/
def items : (steps : Nat) → List Char → Except Flaw (List Value × List Char)
  | 0, s => mismatch .value s
  | steps + 1, s => do
    let (v, rest) ← value steps s
    match skipSpaces rest with
    | ']' :: rest => .ok ([v], rest)
    | ',' :: rest => do
      let (more, rest) ← items steps (skipSpaces rest)
      pure (v :: more, rest)
    | rest => mismatch .comma rest

end

/-- The value of a text that holds one document and nothing else. -/
def document (s : List Char) : Except Flaw Value := do
  let (v, rest) ← value (2 * s.length + 2) (skipSpaces s)
  match skipSpaces rest with
  | [] => .ok v
  | rest => mismatch .extra rest

/-- The place of the character before which `s` has all of `before`: columns count from one. -/
def placeAfter (before : List Char) : Place where
  line := before.count '\n' + 1
  column := (before.reverse.takeWhile (· != '\n')).length + 1

/-- The fault that a flaw of the text `s` is. -/
def Flaw.toFault (s : List Char) : Flaw → Fault
  | .mismatch what left =>
    let index := s.length - left
    .json what.message (placeAfter (s.take index)) index
  | .longInteger digits => .longInteger digits

/-- The value of a decoded text. -/
def parseDecoded (s : List Char) : Except Fault Value :=
  (document s).mapError (Flaw.toFault s)

/-- The value of a text; a byte order mark in front is refused. -/
def parse (s : String) : Except Fault Value :=
  let s := s.toList
  if s.head? == some '\uFEFF' then
    .error ((Flaw.mismatch .byteOrderMark s.length).toFault s)
  else parseDecoded s

end PlayerPage.Json
