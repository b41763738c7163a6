import PlayerPage.Text.Hex
import PlayerPage.Xml.Flaw
import PlayerPage.Xml.Glyph

/-!
The tokens of markup, each read off the front of the glyphs that are left. The encoding of the
document tells which characters are letters.

* `Stop`: why a token does not end: something stands in it that must not, or the text ends.
* `name`, `reference`, `comment`, `instruction`: tokens that content and the prolog share.
* `startTag`, `endTag`: the tags, taken apart.
* `literal`: a quoted text as it stands.
* `pieces`, `quotedPieces`: the value of an attribute as characters and references.
-/

namespace PlayerPage.Xml

/-- Why a token does not end: what stands in it with `left` glyphs left must not; the text ends;
or the text ends inside a character. -/
inductive Stop where
  | invalid (left : Nat)
  | unclosed
  | cut
  deriving DecidableEq, Repr

/-- The flaw that a token is which started with `start` glyphs left. -/
def Stop.flaw (start : Nat) : Stop → Flaw
  | .invalid left => ⟨.invalidToken, left⟩
  | .unclosed => ⟨.unclosedToken, start⟩
  | .cut => ⟨.partialCharacter, start⟩

/-- The stop at the front of `rest`, where any character could have stood. -/
def refused (rest : List Glyph) : Stop :=
  match rest with
  | [] | .half :: _ => .unclosed
  | .cut :: _ => .cut
  | rest => .invalid rest.length

/-- The stop at the front of `rest`, where only certain ASCII characters could have stood. -/
def misplaced (rest : List Glyph) : Stop :=
  match rest with
  | [] | .half :: _ => .unclosed
  | rest => .invalid rest.length

/-- The text after the spaces at its front. -/
def skipSpaces : List Glyph → List Glyph
  | .char c :: rest => if isSpace c then skipSpaces rest else .char c :: rest
  | rest => rest

/-- Whether a text has a space at its front. -/
def startsWithSpace : List Glyph → Bool
  | .char c :: _ => isSpace c
  | _ => false

/-! ### Names -/

/-- The characters of class `p` at the front of a text, and what follows them. -/
def spanChars (p : Char → Bool) : List Glyph → List Char × List Glyph
  | .char c :: rest =>
    if p c then
      let (cs, rest) := spanChars p rest
      (c :: cs, rest)
    else ([], .char c :: rest)
  | rest => ([], rest)

/-- The name without a colon at the front of a text. -/
def name (encoding : Encoding) (s : List Glyph) : Except Stop (List Char × List Glyph) :=
  match s with
  | .char c :: rest =>
    if encoding.startsName c then
      let (cs, rest) := spanChars encoding.continuesName rest
      .ok (c :: cs, rest)
    else .error (refused s)
  | s => .error (refused s)

/-- The name at the front of a text, in which one colon may stand before the start of a second
name. -/
def qualifiedName (encoding : Encoding) (s : List Glyph) :
    Except Stop (List Char × List Glyph) := do
  let (first, rest) ← name encoding s
  match rest with
  | .char ':' :: rest =>
    let (second, rest) ← name encoding rest
    pure (first ++ ':' :: second, rest)
  | rest => pure (first, rest)

/-! ### References -/

/-- A reference: to a character by its number, if there is such a character, or to an entity. -/
inductive Reference where
  | number (c : Option Char)
  | entity (name : List Char)
  deriving DecidableEq, Repr

/-- The character of a number, if a document may hold it. -/
def charOfNumber? (n : Nat) : Option Char :=
  if n < 0xd800 || (0xe000 ≤ n && n < 0x110000) then
    let c := Char.ofNat n
    if isAllowed c then some c else none
  else none

/-- The number of digits in a notation. -/
def numberOf (base : Nat) (digits : List Char) : Nat :=
  digits.foldl (fun n c => n * base + (Text.hexValue? c).getD 0) 0

/-- The rest of a reference by number, after its opening. -/
def numberReference (base : Nat) (isDigit : Char → Bool) (s : List Glyph) :
    Except Stop (Reference × List Glyph) :=
  match spanChars isDigit s with
  | ([], rest) => .error (misplaced rest)
  | (digits, .char ';' :: rest) => .ok (.number (charOfNumber? (numberOf base digits)), rest)
  | (_, rest) => .error (misplaced rest)

/-- The rest of a reference, after its ampersand. -/
def reference (encoding : Encoding) (s : List Glyph) : Except Stop (Reference × List Glyph) :=
  match s with
  | .char '#' :: .char 'x' :: rest =>
    numberReference 16 (fun c => (Text.hexValue? c).isSome) rest
  | .char '#' :: rest => numberReference 10 Char.isDigit rest
  | s => do
    let (n, rest) ← name encoding s
    match rest with
    | .char ';' :: rest => pure (.entity n, rest)
    | rest => .error (refused rest)

/-- The characters of the entities that need no declaration. -/
def predefined? (n : List Char) : Option Char :=
  [(['l', 't'], '<'), (['g', 't'], '>'), (['a', 'm', 'p'], '&'), (['a', 'p', 'o', 's'], '\''),
    (['q', 'u', 'o', 't'], '"')].lookup n

/-! ### Comments and processing instructions -/

/-- What follows a comment, after its opening and the second dash. -/
def commentBody : List Glyph → Except Stop (List Glyph)
  | .char '-' :: .char '-' :: .char '>' :: rest => .ok rest
  | .char '-' :: .char '-' :: rest => .error (misplaced rest)
  | .char _ :: rest => commentBody rest
  | rest => .error (refused rest)

/-- What follows a comment, after its opening and the first dash. -/
def comment : List Glyph → Except Stop (List Glyph)
  | .char '-' :: rest => commentBody rest
  | rest => .error (misplaced rest)

/-- What follows a processing instruction, after its target. -/
def instructionBody : List Glyph → Except Stop (List Glyph)
  | .char '?' :: .char '>' :: rest => .ok rest
  | .char _ :: rest => instructionBody rest
  | rest => .error (refused rest)

/-- Whether a processing instruction with this target is a declaration; none if the target is
reserved. -/
def isDeclaration? (target : List Char) : Option Bool :=
  if target.map Char.toLower == ['x', 'm', 'l'] then
    if target == ['x', 'm', 'l'] then some true else none
  else some false

/-- Whether a processing instruction is a declaration, and what follows it, after its opening. -/
def instruction (encoding : Encoding) (s : List Glyph) : Except Stop (Bool × List Glyph) := do
  let (target, rest) ← name encoding s
  let ends : Bool :=
    match rest with
    | .char '?' :: _ => true
    | rest => startsWithSpace rest
  if !ends then .error (refused rest)
  else
    match isDeclaration? target with
    | none => .error (misplaced rest)
    | some declaration =>
      match rest with
      | .char '?' :: .char '>' :: rest => pure (declaration, rest)
      | .char '?' :: rest => .error (misplaced rest)
      | rest => do pure (declaration, ← instructionBody rest)

/-! ### Literals -/

/-- The text up to the quote that closes it, and what follows the quote. -/
def literal (quote : Char) : List Glyph → Except Stop (List Glyph × List Glyph)
  | .char c :: rest =>
    if c == quote then .ok ([], rest)
    else do
      let (s, rest) ← literal quote rest
      pure (.char c :: s, rest)
  | rest => .error (refused rest)

/-! ### Values of attributes -/

/-- A part of the value of an attribute: a space or line break, another character, or a reference,
with the number of glyphs that were left where it started. -/
inductive Piece where
  | space
  | char (c : Char)
  | reference (r : Reference) (left : Nat)
  deriving DecidableEq, Repr

/-- What follows a line break whose first character was a carriage return. -/
def afterReturn : List Glyph → List Glyph
  | .char '\n' :: rest => rest
  | rest => rest

/-- The stop in the value of an attribute at the front of `s`: what a text without a closing quote
ends in the middle of must not stand there. -/
def stopIn (quote : Option Char) (s : List Glyph) (stop : Stop) : Stop :=
  if quote.isNone && stop == .unclosed then .invalid s.length else stop

/-- The parts of the value of an attribute up to the quote that closes it, or up to the end of the
text, as far as they can be read; and what follows them. A carriage return and a line feed are one
space, but two in the text of an entity. At most `steps` parts are read. -/
def pieces (encoding : Encoding) (inEntity : Bool) (quote : Option Char) :
    (steps : Nat) → List Glyph → List Piece × Except Stop (List Glyph)
  | 0, _ => ([], .error .unclosed)
  | steps + 1, s =>
    match s with
    | .char c :: rest =>
      if quote == some c then ([], .ok rest)
      else if c == '&' then
        match reference encoding rest with
        | .error stop => ([], .error (stopIn quote s stop))
        | .ok (r, rest) =>
          let (more, outcome) := pieces encoding inEntity quote steps rest
          (.reference r s.length :: more, outcome)
      else if c == '<' then ([], .error (.invalid s.length))
      else if isSpace c then
        let (more, outcome) := pieces encoding inEntity quote steps
          (if c == '\r' && !inEntity then afterReturn rest else rest)
        (.space :: more, outcome)
      else
        let (more, outcome) := pieces encoding inEntity quote steps rest
        (.char c :: more, outcome)
    | [] => ([], if quote.isNone then .ok [] else .error .unclosed)
    | s => ([], .error (stopIn quote s (refused s)))

/-- The value of an attribute in a tag, and what follows its closing quote. -/
def quotedPieces (encoding : Encoding) (inEntity : Bool) (quote : Char) (s : List Glyph) :
    Except Stop (List Piece × List Glyph) :=
  let (ps, outcome) := pieces encoding inEntity (some quote) (s.length + 1) s
  outcome.map fun rest => (ps, rest)

/-! ### Tags -/

/-- An attribute as it stands in a tag, with the number of glyphs that were left at its name. -/
structure RawAttribute where
  name : List Char
  value : List Piece
  left : Nat

/-- A start tag, which may be that of an empty element. -/
structure StartTag where
  name : List Char
  attributes : List RawAttribute
  isEmpty : Bool

/-- The end of a start tag, at its slash or angle bracket: whether the element is empty. -/
def tagEnd (s : List Glyph) : Except Stop (Bool × List Glyph) :=
  match s with
  | .char '>' :: rest => .ok (false, rest)
  | .char '/' :: .char '>' :: rest => .ok (true, rest)
  | .char '/' :: rest => .error (misplaced rest)
  | s => .error (misplaced s)

/-- Whether a start tag ends at the front of a text. -/
def isTagEnd : List Glyph → Bool
  | .char c :: _ => c == '>' || c == '/'
  | _ => false

/-- The rest of an attribute after its name: a sign of equality and a quoted value, with spaces
around the sign. -/
def attributeValue (encoding : Encoding) (inEntity : Bool) (s : List Glyph) :
    Except Stop (List Piece × List Glyph) :=
  if !startsWithSpace s && s.head? != some (.char '=') then .error (refused s)
  else
    match skipSpaces s with
    | .char '=' :: rest =>
      match skipSpaces rest with
      | .char c :: rest =>
        if c == '"' || c == '\'' then quotedPieces encoding inEntity c rest
        else .error (.invalid (rest.length + 1))
      | rest => .error (misplaced rest)
    | rest => .error (misplaced rest)

/-- The attributes of a start tag, from the name of the first one on, up to the end of the tag. At
most `steps` attributes are read. -/
def attributes (encoding : Encoding) (inEntity : Bool) : (steps : Nat) → List Glyph →
    Except Stop (List RawAttribute × Bool × List Glyph)
  | 0, _ => .error .unclosed
  | steps + 1, s => do
    let (n, rest) ← qualifiedName encoding s
    let (value, rest) ← attributeValue encoding inEntity rest
    let first : RawAttribute := ⟨n, value, s.length⟩
    if isTagEnd rest then
      let (isEmpty, rest) ← tagEnd rest
      pure ([first], isEmpty, rest)
    else if startsWithSpace rest then
      let rest := skipSpaces rest
      if isTagEnd rest then
        let (isEmpty, rest) ← tagEnd rest
        pure ([first], isEmpty, rest)
      else
        let (more, isEmpty, rest) ← attributes encoding inEntity steps rest
        pure (first :: more, isEmpty, rest)
    else .error (misplaced rest)

/-- The rest of a start tag, after its opening. -/
def startTag (encoding : Encoding) (inEntity : Bool) (s : List Glyph) :
    Except Stop (StartTag × List Glyph) := do
  let (n, rest) ← qualifiedName encoding s
  if isTagEnd rest then
    let (isEmpty, rest) ← tagEnd rest
    pure (⟨n, [], isEmpty⟩, rest)
  else if startsWithSpace rest then
    let rest := skipSpaces rest
    if isTagEnd rest then
      let (isEmpty, rest) ← tagEnd rest
      pure (⟨n, [], isEmpty⟩, rest)
    else
      let (more, isEmpty, rest) ← attributes encoding inEntity rest.length rest
      pure (⟨n, more, isEmpty⟩, rest)
  else .error (refused rest)

/-- The name in an end tag, after its opening and slash, and what follows the tag. -/
def endTag (encoding : Encoding) (s : List Glyph) : Except Stop (List Char × List Glyph) := do
  let (first, rest) ← name encoding s
  let (more, rest) := spanChars (fun c => encoding.continuesName c || c == ':') rest
  match rest with
  | .char '>' :: rest => pure (first ++ more, rest)
  | rest =>
    if startsWithSpace rest then
      match skipSpaces rest with
      | .char '>' :: rest => pure (first ++ more, rest)
      | rest => .error (misplaced rest)
    else .error (refused rest)

end PlayerPage.Xml
