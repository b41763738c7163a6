import PlayerPage.Text.Class
import PlayerPage.Text.Table.CodePage
import PlayerPage.Text.Utf8
import PlayerPage.Text.Wide

/-!
Character sets: which bytes stand for which characters.

* `Charset.ofName?`: the character set of a name, in whatever spelling.
* `Charset.pageOf?`: the upper half of a character set with one byte for a character.
* `Charset.encode`: the bytes of a text, without the characters that the set lacks.
-/

namespace PlayerPage.Text

/-- The kinds of character sets. -/
inductive Charset where
  /-- The Unicode forms; `marked` ones start with a byte order mark. -/
  | utf8 (marked : Bool)
  | utf16 (order : Wide.Order) (marked : Bool)
  | utf32 (order : Wide.Order) (marked : Bool)
  /-- One byte for a character, where the lower half is ASCII and the upper half is `upper`. -/
  | page (upper : List Char)
  /-- Several bytes for a character. -/
  | multibyte
  /-- One byte for a character, but not those of ASCII. -/
  | nonAscii
  /-- ASCII, but a tilde starts an escape. -/
  | tildeEscapes
  /-- Forms of names of hosts, which are not made byte by byte: whole names, and the coded form of
  their parts. -/
  | hostNames
  | punycode
  /-- Transformations of bytes. -/
  | transform
  /-- The set without any character. -/
  | void

namespace Charset

/-- The name of a character set in lower case, with one underscore for every run of characters
between its letters, digits and points. -/
def normalName (name : String) : List Char :=
  go false false name.toList
where
  /-- The rest of a name, after a run of other characters if `gap`, and after at least one letter
  if `started`. -/
  go (started gap : Bool) : List Char → List Char
    | [] => []
    | c :: rest =>
      if (isWord c && c != '_') || c == '.' then
        let shown := if c.toNat < 0x80 then [c.toLower] else []
        (if gap && started then '_' :: shown else shown) ++ go true false rest
      else go started true rest

/-- The name that a character set is listed under. -/
def listedName (name : String) : String :=
  let normal := normalName name
  let plain := normal.map fun c => if c == '.' then '_' else c
  ((Table.charsetAliases.lookup (String.ofList normal)).or
    (Table.charsetAliases.lookup (String.ofList plain))).getD (String.ofList normal)

/-- The characters of the bytes from 128 on in the set where every byte is the character of its
number. -/
def latinUpper : List Char :=
  (List.range 128).map fun n => Char.ofNat (128 + n)

/-- The Unicode forms by name. -/
def unicodeForms : List (String × Charset) :=
  [("utf_8", .utf8 false), ("utf_8_sig", .utf8 true), ("utf_16", .utf16 .low true),
    ("utf_16_le", .utf16 .low false), ("utf_16_be", .utf16 .high false),
    ("utf_32", .utf32 .low true), ("utf_32_le", .utf32 .low false),
    ("utf_32_be", .utf32 .high false)]

/-- The character set of a name, in whatever spelling. -/
def ofName? (name : String) : Option Charset :=
  let listed := listedName name
  match unicodeForms.lookup listed with
  | some form => some form
  | none =>
    match Table.codePages.lookup listed with
    | some upper => some (.page upper.toList)
    | none =>
      if Table.asciiOnly.contains listed then some (.page [])
      else if Table.latinLike.contains listed then some (.page latinUpper)
      else if Table.multibyte.contains listed then some .multibyte
      else if Table.nonAscii.contains listed then some .nonAscii
      else if Table.transforms.contains listed then some .transform
      else if listed == "hz" then some .tildeEscapes
      else if listed == "idna" then some .hostNames
      else if listed == "punycode" then some .punycode
      else if listed == "undefined" then some .void
      else none

/-- Whether texts can be written in the set. -/
def isText : Charset → Bool
  | .transform | .void => false
  | _ => true

/-- The byte of a character in a set whose upper half is `upper`. -/
def pageByte? (upper : List Char) (c : Char) : Option UInt8 :=
  if c.toNat < 0x80 then some (UInt8.ofNat c.toNat)
  else if c == '\uFFFD' then none
  else (upper.findIdx? (· == c)).map fun n => UInt8.ofNat (128 + n)

/-- The bytes of a number below `256 ^ count`. -/
def numberBytes (order : Wide.Order) (count n : Nat) : List UInt8 :=
  let low := (List.range count).map fun i => UInt8.ofNat (n / Nat.pow 256 i)
  match order with
  | .low => low
  | .high => low.reverse

/-- The bytes of a character in UTF-16. -/
def encode16 (order : Wide.Order) (c : Char) : List UInt8 :=
  if c.toNat < 0x10000 then numberBytes order 2 c.toNat
  else
    let n := c.toNat - 0x10000
    numberBytes order 2 (0xd800 + n / 0x400) ++ numberBytes order 2 (0xdc00 + n % 0x400)

/-- The bytes of a text, without the characters that the set lacks. -/
def encode (charset : Charset) (s : List Char) : List UInt8 :=
  match charset with
  | .utf8 marked => (if marked then [0xef, 0xbb, 0xbf] else []) ++ Utf8.encode s
  | .utf16 order marked =>
    (if marked then numberBytes order 2 0xfeff else []) ++ s.flatMap (encode16 order)
  | .utf32 order marked =>
    (if marked then numberBytes order 4 0xfeff else []) ++
      s.flatMap fun c => numberBytes order 4 c.toNat
  | .page upper => s.filterMap (pageByte? upper)
  | .tildeEscapes => s.flatMap fun c => if c == '~' then [0x7e, 0x7e] else (pageByte? [] c).toList
  | _ => s.filterMap (pageByte? [])

end Charset

end PlayerPage.Text
