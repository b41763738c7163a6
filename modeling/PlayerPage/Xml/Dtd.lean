import PlayerPage.Xml.Scan

/-!
What a document type declares, and the values of attributes under it.

* `Entity`, `AttributeRule`, `Dtd`: the declared entities and attributes.
* `Dtd.value`: the value of an attribute: references are replaced, and a value that is not
  character data has single spaces between its words only.
-/

namespace PlayerPage.Xml

/-- What an entity stands for: a text, something outside the document, or data that are not XML. -/
inductive Entity where
  | internal (text : List Glyph)
  | external
  | unparsed
  deriving DecidableEq

/-- What is declared of an attribute of an element. -/
structure AttributeRule where
  element : List Char
  name : List Char
  isCdata : Bool
  default : Option (List Char)
  deriving DecidableEq

/-- What a document type declares. -/
structure Dtd where
  entities : List (List Char × Entity)
  rules : List AttributeRule
  /-- Whether some declarations are not read, because they stand outside of the document. -/
  isPartial : Bool
  standalone : Bool
  /-- Whether declarations still count. -/
  counts : Bool
  deriving DecidableEq

namespace Dtd

/-- The document type of a document that has none. -/
def empty : Dtd :=
  ⟨[], [], false, false, true⟩

/-- Whether every entity has to be declared where it is read. -/
def isComplete (dtd : Dtd) : Bool :=
  !dtd.isPartial || dtd.standalone

/-- The entity of a name. -/
def entity? (dtd : Dtd) (name : List Char) : Option Entity :=
  dtd.entities.lookup name

/-- What is declared of an attribute. -/
def rule? (dtd : Dtd) (element name : List Char) : Option AttributeRule :=
  dtd.rules.find? fun rule => rule.element == element && rule.name == name

/-! ### Values of attributes -/

/-- Why an attribute has no value, and how many glyphs were left there, if it shows in the
document itself. -/
structure ValueFlaw where
  reason : Reason
  left : Option Nat

/-- A value, its last character first, with one more space. -/
def addSpace (collapse : Bool) (value : List Char) : List Char :=
  if collapse && (value.isEmpty || value.head? == some ' ') then value else ' ' :: value

/-- A value, its last character first, with the character of a reference. -/
def addNumber (collapse : Bool) (value : List Char) (c : Char) : List Char :=
  if c == ' ' then addSpace collapse value else c :: value

/-- A value, its last character first, with more parts; `opened` are the entities that the parts
stand in, and at most `depth` entities stand in each other. -/
def expand (dtd : Dtd) (collapse : Bool) : (depth : Nat) → (opened : List (List Char)) →
    (value : List Char) → List Piece → Except ValueFlaw (List Char)
  | 0, _, _, _ => .error ⟨.recursiveEntity, none⟩
  | depth + 1, opened, value, parts =>
    parts.foldlM (fun value part =>
      match part with
      | .space => .ok (addSpace collapse value)
      | .char c => .ok (c :: value)
      | .reference (.number none) left => .error ⟨.badCharacterNumber, some left⟩
      | .reference (.number (some c)) _ => .ok (addNumber collapse value c)
      | .reference (.entity name) left =>
        match predefined? name with
        | some c => .ok (c :: value)
        | none =>
          match dtd.entity? name with
          | none => if dtd.isComplete then .error ⟨.undefinedEntity, none⟩ else .ok value
          | some entity =>
            if opened.contains name then .error ⟨.recursiveEntity, some left⟩
            else
              match entity with
              | .unparsed => .error ⟨.binaryEntity, some left⟩
              | .external => .error ⟨.externalInAttribute, some left⟩
              | .internal text =>
                let (parts, outcome) := pieces .utf8 true none (text.length + 1) text
                match expand dtd collapse depth (name :: opened) value parts with
                | .error flaw => .error ⟨flaw.reason, none⟩
                | .ok value =>
                  match outcome with
                  | .ok _ => .ok value
                  | .error _ => .error ⟨.invalidToken, none⟩) value

/-- The value that parts make up. -/
def value (dtd : Dtd) (isCdata : Bool) (parts : List Piece) : Except ValueFlaw (List Char) := do
  let value ← dtd.expand (!isCdata) (dtd.entities.length + 1) [] [] parts
  if !isCdata && value.head? == some ' ' then pure value.tail.reverse else pure value.reverse

end Dtd

end PlayerPage.Xml
