import PlayerPage.Xml.Dtd
import PlayerPage.Xml.Element
import PlayerPage.Xml.Namespace

/-!
The content of a document: elements, texts and references, read as events.

* `Reading`: the elements that are open and the events so far.
* `openElement`: the attributes of a start tag with their values and namespaces.
* `content`: the events of the first element of a document, and what follows it.
-/

namespace PlayerPage.Xml

/-- An element whose end has not been read: its name as it stands, and the prefixes bound in
it. -/
structure OpenTag where
  name : List Char
  scope : Scope

/-- The open elements, the innermost first, and the events so far, the last first. -/
structure Reading where
  opened : List OpenTag
  events : List Event

namespace Reading

/-- The reading before a document. -/
def empty : Reading :=
  ⟨[], []⟩

/-- The reading with one more text. -/
def text (r : Reading) (s : List Char) : Reading :=
  { r with events := .text s :: r.events }

/-- The prefixes that are bound where the reading stands. -/
def scope (r : Reading) : Scope :=
  match r.opened with
  | [] => Scope.initial
  | tag :: _ => tag.scope

end Reading

/-! ### Start tags -/

/-- The attributes of a tag, in order, and the prefixes that they bind. -/
structure TagContext where
  scope : Scope
  attributes : List (List Char × List Char)

/-- The context with one more attribute, which may bind a prefix. -/
def TagContext.add (context : TagContext) (name value : List Char) : Except Reason TagContext :=
  match Scope.boundPrefix? name with
  | some label =>
    (context.scope.bind label value).map fun scope => { context with scope }
  | none => .ok { context with attributes := context.attributes ++ [(name, value)] }

/-- The context with the attributes that stand in a tag at which `start` glyphs were left; `seen`
are the names before them. -/
def addWritten (dtd : Dtd) (element : List Char) (start : Nat) (seen : List (List Char))
    (context : TagContext) : List RawAttribute → Except Flaw TagContext
  | [] => .ok context
  | a :: rest => do
    if seen.contains a.name then throw ⟨.duplicateAttribute, a.left⟩
    let isCdata := ((dtd.rule? element a.name).map (·.isCdata)).getD true
    let value ← (dtd.value isCdata a.value).mapError fun flaw =>
      (⟨flaw.reason, flaw.left.getD start⟩ : Flaw)
    let context ← (context.add a.name value).mapError fun reason => (⟨reason, start⟩ : Flaw)
    addWritten dtd element start (a.name :: seen) context rest

/-- The context with the default values of the attributes that do not stand in the tag. -/
def addDefaults (element : List Char) (written : List (List Char)) (context : TagContext) :
    List AttributeRule → Except Reason TagContext
  | [] => .ok context
  | rule :: rest =>
    match rule.default with
    | some value =>
      if rule.element == element && !written.contains rule.name then do
        addDefaults element written (← context.add rule.name value) rest
      else addDefaults element written context rest
    | none => addDefaults element written context rest

/-- The attributes with their namespaces; `seen` are the names in namespaces before them. -/
def expandNames (scope : Scope) (seen : List (List Char)) :
    List (List Char × List Char) → Except Reason (List (String × String))
  | [] => .ok []
  | (name, value) :: rest =>
    match scope.expand? false name with
    | none => .error .unboundPrefix
    | some expanded =>
      let isPrefixed := !(Scope.split name).1.isEmpty
      if isPrefixed && seen.contains expanded then .error .duplicateAttribute
      else do
        let more ← expandNames scope (if isPrefixed then expanded :: seen else seen) rest
        pure ((String.ofList expanded, String.ofList value) :: more)

/-- The reading after a start tag at which `start` glyphs were left. -/
def openElement (dtd : Dtd) (r : Reading) (tag : StartTag) (start : Nat) :
    Except Flaw Reading := do
  let flawOf (reason : Reason) : Flaw := ⟨reason, start⟩
  let context ← addWritten dtd tag.name start [] ⟨r.scope, []⟩ tag.attributes
  let written := tag.attributes.map (·.name)
  let context ← (addDefaults tag.name written context dtd.rules).mapError flawOf
  let attributes ← (expandNames context.scope [] context.attributes).mapError flawOf
  match context.scope.expand? true tag.name with
  | none => throw (flawOf .unboundPrefix)
  | some name =>
    let events := .start (String.ofList name) attributes :: r.events
    pure (if tag.isEmpty then { r with events := .finish :: events }
      else ⟨⟨tag.name, context.scope⟩ :: r.opened, events⟩)

/-! ### Character data

A carriage return is a line feed, and one before a line feed is nothing; in the text of an entity,
where line breaks have been made line feeds before, it is a character like others. -/

/-- Whether a text ends here, but for half a code unit. -/
def isAtEnd : List Glyph → Bool
  | [] | [.half] => true
  | _ => false

/-- The characters of a section of character data, and what follows the section. -/
def cdata (inEntity : Bool) : List Glyph → Except Flaw (List Char × List Glyph)
  | .char ']' :: .char ']' :: .char '>' :: rest => .ok ([], rest)
  | .char c :: rest =>
    let isReturn := c == '\r' && !inEntity
    if (isReturn || c == ']') && isAtEnd rest then .error ⟨.unclosedCdata, rest.length + 1⟩
    else if c == ']' && rest.head? == some (.char ']') && isAtEnd rest.tail then
      .error ⟨.unclosedCdata, rest.length + 1⟩
    else do
      let (s, after) ← cdata inEntity rest
      pure (if isReturn then if rest.head? == some (.char '\n') then s else '\n' :: s
        else c :: s, after)
  | .illegal :: rest | .broken :: rest => .error ⟨.invalidToken, rest.length + 1⟩
  | .cut :: rest => .error ⟨.partialCharacter, rest.length + 1⟩
  | rest => .error ⟨.unclosedCdata, rest.length⟩

/-- What follows the opening of a section of character data, after its first bracket. -/
def cdataStart (s : List Glyph) : Except Stop (List Glyph) :=
  let rec expect : List Char → List Glyph → Except Stop (List Glyph)
    | [], rest => .ok rest
    | c :: cs, rest =>
      if rest.head? == some (.char c) then expect cs rest.tail else .error (.invalid rest.length)
  if ((s.take 6).filter (· != .half)).length < 6 then .error .unclosed
  else expect "CDATA[".toList s

/-! ### Elements -/

/-- The reading after an end tag with this name, whose name had `left` glyphs left; `base` elements
were open where the text starts that it stands in. -/
def closeElement (r : Reading) (name : List Char) (base left : Nat) : Except Flaw Reading :=
  match r.opened with
  | [] => .error ⟨.asynchronousEntity, left + 2⟩
  | tag :: outer =>
    if r.opened.length ≤ base then .error ⟨.asynchronousEntity, left + 2⟩
    else if tag.name != name then .error ⟨.mismatchedTag, left⟩
    else .ok ⟨outer, .finish :: r.events⟩

/-- What is between two markups: the rest of the text, and the reading there. -/
abbrev Progress := Reading × List Glyph

/-- The reading after a markup that starts the text `s` with an angle bracket. -/
def markup (encoding : Encoding) (dtd : Dtd) (base : Nat) (r : Reading) (s : List Glyph) :
    Except Flaw Progress :=
  let stopped (stop : Stop) : Flaw := stop.flaw s.length
  match s.tail with
  | .char '!' :: .char '-' :: rest => do
    pure (r, ← (comment rest).mapError stopped)
  | .char '!' :: .char '[' :: rest => do
    let rest ← (cdataStart rest).mapError stopped
    let (text, rest) ← cdata (base != 0) rest
    pure (r.text text, rest)
  | .char '!' :: rest => .error (stopped (misplaced rest))
  | .char '?' :: rest => do
    let (declaration, rest) ← (instruction encoding rest).mapError stopped
    if declaration then throw ⟨.misplacedDeclaration, s.length⟩
    pure (r, rest)
  | .char '/' :: rest => do
    let (name, after) ← (endTag encoding rest).mapError stopped
    pure (← closeElement r name base rest.length, after)
  | rest => do
    let (tag, after) ← (startTag encoding (base != 0) rest).mapError stopped
    pure (← openElement dtd r tag s.length, after)

/-- What an entity stands for in content. -/
def entityFor (dtd : Dtd) (opened : List (List Char)) (name : List Char) :
    Except Reason (List Glyph) :=
  let unread := Reason.unreadEntity ('&' :: (name ++ [';']))
  match dtd.entity? name with
  | none => .error (if dtd.isComplete then .undefinedEntity else unread)
  | some entity =>
    if opened.contains name then .error .recursiveEntity
    else
      match entity with
      | .unparsed => .error .binaryEntity
      | .external => .error unread
      | .internal text => .ok text

/-- Whether a character stands for itself in content, whatever stands next to it. -/
def isPlain (c : Char) : Bool :=
  c != '<' && c != '&' && c != '\r' && c != ']'

/-- The outcome at the end of a text: the document must have ended before, and in the text of an
entity as many elements must be open as at its start. -/
def atEnd (base : Nat) (r : Reading) (left : Nat) : Except Flaw Progress :=
  if base == 0 then .error ⟨.noElement, left⟩
  else if r.opened.length != base then .error ⟨.asynchronousEntity, left⟩
  else .ok (r, [])

/-- The reading of the content of a text up to its end, or up to the end of the first element;
`enter` reads the text of an entity. At most `steps` parts are read. -/
def readParts (encoding : Encoding) (dtd : Dtd) (opened : List (List Char)) (base : Nat)
    (enter : (name : List Char) → List Glyph → Reading → Except Flaw Progress) :
    (steps : Nat) → Reading → List Glyph → Except Flaw Progress
  | 0, r, s => atEnd base r s.length
  | steps + 1, r, s =>
    match s with
    | [] => atEnd base r 0
    | .char '<' :: _ => do
      let (r, rest) ← markup encoding dtd base r s
      if r.opened.isEmpty then pure (r, rest)
      else readParts encoding dtd opened base enter steps r rest
    | .char '&' :: rest =>
      match reference encoding rest with
      | .error stop => .error (stop.flaw s.length)
      | .ok (.number none, _) => .error ⟨.badCharacterNumber, s.length⟩
      | .ok (.number (some c), rest) =>
        readParts encoding dtd opened base enter steps (r.text [c]) rest
      | .ok (.entity name, rest) =>
        match predefined? name with
        | some c => readParts encoding dtd opened base enter steps (r.text [c]) rest
        | none =>
          match entityFor dtd opened name with
          | .error reason => .error ⟨reason, s.length⟩
          | .ok text =>
            match enter name text r with
            | .error flaw => .error ⟨flaw.reason, s.length⟩
            | .ok (r, _) => readParts encoding dtd opened base enter steps r rest
    | .char '\r' :: rest =>
      if base != 0 then readParts encoding dtd opened base enter steps (r.text ['\r']) rest
      else if isAtEnd rest then atEnd base (r.text ['\n']) s.length
      else readParts encoding dtd opened base enter steps (r.text ['\n']) (afterReturn rest)
    | .char ']' :: rest =>
      match rest with
      | .char ']' :: .char '>' :: more => .error ⟨.invalidToken, more.length + 1⟩
      | rest =>
        if isAtEnd rest then atEnd base (r.text [']']) 0
        else readParts encoding dtd opened base enter steps (r.text [']']) rest
    | .char _ :: _ =>
      let (text, rest) := spanChars isPlain s
      readParts encoding dtd opened base enter steps (r.text text) rest
    | s => .error ((refused s).flaw s.length)

/-- The reading of the content of a text inside the entities `opened`; at most `depth` entities
stand in each other. The texts of entities are kept in UTF-8, whatever the encoding of the
document. -/
def contentIn (encoding : Encoding) (dtd : Dtd) : (depth : Nat) → (opened : List (List Char)) →
    Reading → List Glyph → Except Flaw Progress
  | 0, _, _, s => .error ⟨.recursiveEntity, s.length⟩
  | depth + 1, opened, r, s =>
    readParts encoding dtd opened r.opened.length
      (fun name text r => contentIn .utf8 dtd depth (name :: opened) r text) (s.length + 1) r s

/-- The events of the first element of a document, and what follows it. -/
def content (encoding : Encoding) (dtd : Dtd) (s : List Glyph) :
    Except Flaw (List Event × List Glyph) := do
  let (r, rest) ← contentIn encoding dtd (dtd.entities.length + 1) [] Reading.empty s
  pure (r.events.reverse, rest)

end PlayerPage.Xml
