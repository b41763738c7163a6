import PlayerPage.Text.Charset
import PlayerPage.Text.Ranges
import PlayerPage.Xml.NameTable

/-!
The characters of a document, read from its bytes.

* `Glyph`: a character, or what stands where one should be.
* `isNameStart`, `isNameChar`, `isAllowed`, `isSpace`: the classes of characters.
* `Encoding`, `Encoding.glyphs`: the glyphs of the bytes of a document.
* `Encoding.startsName`, `Encoding.continuesName`: the characters of names, as far as they depend on
  the encoding of the document; `Encoding.isKeywordLetter`, `Encoding.opensElement`: those that are
  told by their first bytes alone.
-/

namespace PlayerPage.Xml

/-- What stands at a place of a document: a character, something that is none, the beginning of
several bytes that make up none, a character that the end of the bytes cuts off, or half of the
bytes of a code unit at the end. -/
inductive Glyph where
  | char (c : Char)
  | illegal
  | broken
  | cut
  | half
  deriving DecidableEq, Repr

/-! ### Classes of characters -/

/-- Whether a character may start a name; a colon stands between two names. -/
def isNameStart (c : Char) : Bool :=
  c.isAlpha || c == '_' || (0x80 ≤ c.toNat && Text.inRanges c.toNat NameTable.starts)

/-- Whether a name may go on with a character. -/
def isNameChar (c : Char) : Bool :=
  isNameStart c || c.isDigit || c == '-' || c == '.' ||
    (0x80 ≤ c.toNat && Text.inRanges c.toNat NameTable.continues)

/-- Whether a character may stand between the parts of a tag. -/
def isSpace (c : Char) : Bool :=
  c == ' ' || c == '\t' || c == '\n' || c == '\r'

/-- Whether a document may hold a character. -/
def isAllowed (c : Char) : Bool :=
  0x20 ≤ c.toNat && c.toNat != 0xfffe && c.toNat != 0xffff || c == '\t' || c == '\n' || c == '\r'

/-! ### Bytes -/

/-- The encodings of documents. -/
inductive Encoding where
  | utf8
  | utf16 (order : Text.Wide.Order)
  | latin
  | ascii
  /-- One byte for a character, where the upper half is `upper`. -/
  | page (upper : List Char)
  /-- ASCII without the tilde. -/
  | tildeless
  deriving DecidableEq

/-- The glyph of a decoded character. -/
def Glyph.ofChar (c : Char) : Glyph :=
  if isAllowed c then .char c else .illegal

/-- The number of bytes of the UTF-8 character that a byte starts, if it starts one of several. -/
def leadSize? (b : UInt8) : Option Nat :=
  if b < 0xc0 || 0xf4 < b then none
  else if b < 0xe0 then some 2
  else if b < 0xf0 then some 3
  else some 4

/-- The glyphs of bytes in UTF-8, the first `skip` of which belong to what stands before them. -/
def utf8Glyphs (skip : Nat) : List UInt8 → List Glyph
  | [] => []
  | b :: rest =>
    match skip with
    | skip + 1 => utf8Glyphs skip rest
    | 0 =>
      if b < 0x80 then Glyph.ofChar (Char.ofNat b.toNat) :: utf8Glyphs 0 rest
      else
        match leadSize? b with
        | none => .illegal :: utf8Glyphs 0 rest
        | some size =>
          if (rest.take (size - 1)).length < size - 1 then [.cut]
          else
            match Text.Utf8.step b rest with
            | .char c size =>
              (if isAllowed c then .char c else .broken) :: utf8Glyphs (size - 1) rest
            | .fault _ _ => .broken :: utf8Glyphs 0 rest

/-- The glyphs of bytes in UTF-16. The unit after the first half of a pair counts as the second
half, whatever it is. -/
def utf16Glyphs (order : Text.Wide.Order) : List UInt8 → List Glyph
  | [] => []
  | [_] => [.half]
  | a :: b :: rest =>
    let n := Text.Wide.unit16 order a b
    if 0xd800 ≤ n && n < 0xdc00 then
      match rest with
      | c :: d :: rest =>
        let m := Text.Wide.unit16 order c d
        Glyph.ofChar (Char.ofNat (0x10000 + (n - 0xd800) * 0x400 + m % 0x400)) ::
          utf16Glyphs order rest
      | _ => [.cut]
    else if 0xdc00 ≤ n && n < 0xe000 then .illegal :: utf16Glyphs order rest
    else Glyph.ofChar (Char.ofNat n) :: utf16Glyphs order rest

/-- The glyph of a byte of a code page. -/
def pageGlyph (upper : List Char) (b : UInt8) : Glyph :=
  if b < 0x80 then Glyph.ofChar (Char.ofNat b.toNat)
  else
    match upper[b.toNat - 128]? with
    | some c => if c == '\uFFFD' then .illegal else Glyph.ofChar c
    | none => .illegal

/-- The glyph of a byte of ASCII, where a tilde is none. -/
def tildelessGlyph (b : UInt8) : Glyph :=
  if b == 0x7e then .illegal else pageGlyph [] b

namespace Encoding

/-- The glyphs of the bytes of a document. -/
def glyphs (encoding : Encoding) (bytes : List UInt8) : List Glyph :=
  match encoding with
  | .utf8 => utf8Glyphs 0 bytes
  | .utf16 order => utf16Glyphs order bytes
  | .latin => bytes.map fun b => Glyph.ofChar (Char.ofNat b.toNat)
  | .ascii => bytes.map (pageGlyph [])
  | .page upper => bytes.map (pageGlyph upper)
  | .tildeless => bytes.map tildelessGlyph

/-- The least number of bytes of a character. -/
def unitSize : Encoding → Nat
  | .utf16 _ => 2
  | _ => 1

/-! ### Letters -/

/-- Whether ª, µ and º are letters. They are where the characters below 256 have a table of their
own, but not in the classes of characters that all other encodings follow. -/
def hasLatinLetters : Encoding → Bool
  | .latin | .utf16 _ => true
  | _ => false

/-- Whether a character is a letter only where the encoding makes it one. -/
def isExtraLetter (encoding : Encoding) (c : Char) : Bool :=
  encoding.hasLatinLetters && (c == 'ª' || c == 'µ' || c == 'º')

/-- Whether a character may start a name. -/
def startsName (encoding : Encoding) (c : Char) : Bool :=
  isNameStart c || encoding.isExtraLetter c

/-- Whether a name may go on with a character. -/
def continuesName (encoding : Encoding) (c : Char) : Bool :=
  isNameChar c || encoding.isExtraLetter c

/-- Whether the first byte or code unit of a character tells what it is. -/
def tellsAtOnce (encoding : Encoding) (c : Char) : Bool :=
  match encoding with
  | .utf8 => c.toNat < 0x80
  | .utf16 _ => c.toNat < 0x100
  | _ => true

/-- Whether a character may stand in the keyword of a declaration. -/
def isKeywordLetter (encoding : Encoding) (c : Char) : Bool :=
  encoding.startsName c && encoding.tellsAtOnce c

/-- Whether an element is taken to start with a character after an angle bracket, before its name is
read. -/
def opensElement (encoding : Encoding) (c : Char) : Bool :=
  encoding.startsName c || !encoding.tellsAtOnce c

end Encoding

end PlayerPage.Xml
