import PlayerPage.Xml.Flaw

/-!
The declaration at the start of a document: its version, its encoding, and whether it stands
alone.

* `Declaration`, `Declaration.parse`: the declaration of the text between its opening and its end.
-/

namespace PlayerPage.Xml

/-- What a document declares of itself: its encoding, with the rest of the declaration from its
name on, and whether it stands alone. -/
structure Declaration where
  encoding : Option (List Char × List Char)
  standalone : Bool

namespace Declaration

/-- Whether a character may stand between the parts of a declaration. -/
def isSpace (c : Char) : Bool :=
  c == ' ' || c == '\t' || c == '\n' || c == '\r'

/-- A part `name="value"` of a declaration, with the rest of the declaration from its name and
from its value on. -/
structure Part where
  name : List Char
  value : List Char
  fromName : List Char
  fromValue : List Char

/-- A step of reading, or the rest of the declaration that cannot be read. -/
abbrev Outcome (α : Type) := Except (List Char) α

/-- The value of a part up to its closing quote, and what follows the quote. -/
def value (quote : Char) : List Char → Outcome (List Char × List Char)
  | [] => .error []
  | c :: rest =>
    if c == quote then .ok ([], rest)
    else if c.isAlphanum || c == '.' || c == '-' || c == '_' then do
      let (cs, rest) ← value quote rest
      pure (c :: cs, rest)
    else .error (c :: rest)

/-- Whether a character belongs to the name of a part. -/
def isNamePart (c : Char) : Bool :=
  c.toNat < 0x80 && c != '=' && !isSpace c

/-- The part at the front of a text and what follows it; none if only spaces are left. -/
def part? (s : List Char) : Outcome (Option (Part × List Char)) :=
  match s with
  | [] => .ok none
  | c :: rest =>
    if !isSpace c then .error s
    else
      match rest.dropWhile isSpace with
      | [] => .ok none
      | fromName =>
        let name := fromName.takeWhile isNamePart
        let after := fromName.dropWhile isNamePart
        match after.dropWhile isSpace with
        | '=' :: rest =>
          if name.isEmpty then .error after
          else
            match rest.dropWhile isSpace with
            | quote :: fromValue =>
              if quote == '"' || quote == '\'' then do
                let (v, rest) ← value quote fromValue
                pure (some (⟨name, v, fromName, fromValue⟩, rest))
              else .error (quote :: fromValue)
            | [] => .error []
        | bad => .error bad

/-- The declaration that ends with a statement on whether the document stands alone. -/
def standaloneOf (encoding : Option (List Char × List Char)) (part : Part) (rest : List Char) :
    Outcome Declaration :=
  if part.name != "standalone".toList then .error part.fromName
  else if part.value != "yes".toList && part.value != "no".toList then .error part.fromValue
  else
    match rest.dropWhile isSpace with
    | [] => .ok ⟨encoding, part.value == "yes".toList⟩
    | bad => .error bad

/-- The declaration that a text is, or the rest of the text that cannot be read. -/
def parse (s : List Char) : Outcome Declaration := do
  match ← part? s with
  | none => .error s
  | some (version, rest) =>
    if version.name != "version".toList then .error version.fromName
    else
      match ← part? rest with
      | none => pure ⟨none, false⟩
      | some (second, rest) =>
        if second.name != "encoding".toList then standaloneOf none second rest
        else if !((second.value.head?.map Char.isAlpha).getD false) then .error second.fromValue
        else
          let encoding := some (second.value, second.fromValue)
          match ← part? rest with
          | none => pure ⟨encoding, false⟩
          | some (third, rest) => standaloneOf encoding third rest

end Declaration

end PlayerPage.Xml
