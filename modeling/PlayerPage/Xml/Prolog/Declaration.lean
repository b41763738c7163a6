import PlayerPage.Xml.Dtd
import PlayerPage.Xml.Prolog.Token

/-!
The prolog: what a document type declares, up to the first element.

* `State`, `advance`: how far the prolog has come, and how a token takes it further.
* `entityText`: the text that the value of an entity stands for.
* `read`: the declarations of a prolog, and what follows it.
-/

namespace PlayerPage.Xml.Prolog

/-- The name of an entity whose declaration counts; none if it does not. -/
abbrev Target := Option (List Char)

/-- How far the prolog has come. -/
inductive State where
  /-- Before the document type, and after it. -/
  | beforeType
  | afterType
  /-- In the document type. -/
  | typeName
  | typeKind
  | typePublic
  | typeSystem
  | typeSubset
  | subset
  | typeEnd
  /-- In the declaration of an entity. -/
  | entityName
  | entityKind (target : Target)
  | entityPublic (target : Target)
  | entitySystem (target : Target)
  | entityData (target : Target)
  | entityNotation (target : Target)
  | parameterName
  | parameterKind
  | parameterPublic
  | parameterSystem
  /-- In the declaration of a notation. -/
  | notationName
  | notationKind
  | notationPublic
  | notationSystem
  | notationEnd
  /-- In the declaration of the attributes of an element. -/
  | listElement
  | listName (element : List Char)
  | listType (element name : List Char)
  | listChoice (element name : List Char)
  | listNextChoice (element name : List Char)
  | listNotation (element name : List Char)
  | listNotationChoice (element name : List Char)
  | listNextNotation (element name : List Char)
  | listDefault (element name : List Char) (isCdata : Bool)
  | listFixed (element name : List Char) (isCdata : Bool)
  /-- In the declaration of an element; of a group, the connectors of its levels are known, the
  innermost first. -/
  | elementName
  | elementKind
  | elementContent
  | mixedNext
  | mixedName
  | mixedRest
  | group (levels : List (Option Char))
  | groupNext (levels : List (Option Char))
  /-- Before the end of a declaration. -/
  | declEnd

/-- A state with the declarations so far. -/
abbrev Progress := State × Dtd

/-! ### Parts of declarations -/

/-- Whether a public identifier may hold a character. -/
def isPublicChar (c : Char) : Bool :=
  c.isAlphanum || c == ' ' || c == '\n' || c == '\r' ||
    ['-', '\'', '(', ')', '+', ',', '.', '/', ':', '=', '?', ';', '!', '*', '#', '@', '$', '_',
      '%'].contains c

/-- Whether a glyph may stand in a public identifier, or at its end. -/
def isPublicGlyph : Glyph → Bool
  | .char c => isPublicChar c
  | .half => true
  | _ => false

/-- A public identifier, after which `left` glyphs are left, is checked. -/
def checkPublic (content : List Glyph) (left : Nat) : Except Flaw Unit :=
  match content.dropWhile isPublicGlyph with
  | [] => .ok ()
  | bad => .error ⟨.publicId, bad.length + left⟩

/-- The text that the value of an entity stands for, after which `left` glyphs are left: numbers
of characters are replaced, while references to entities stay. At most `steps` parts are read. -/
def entityText (encoding : Encoding) (left : Nat) : (steps : Nat) → List Glyph →
    Except Flaw (List Glyph)
  | 0, _ => .ok []
  | steps + 1, s =>
    match s with
    | [] => .ok []
    | .char '&' :: rest =>
      match reference encoding rest with
      | .error (.invalid here) => .error ⟨.invalidToken, here + left⟩
      | .error _ => .error ⟨.invalidToken, s.length + left⟩
      | .ok (.number none, _) => .error ⟨.badCharacterNumber, s.length + left⟩
      | .ok (.number (some c), rest) => do pure (.char c :: (← entityText encoding left steps rest))
      | .ok (.entity _, after) => do
        pure (s.take (s.length - after.length) ++ (← entityText encoding left steps after))
    | .char '%' :: rest =>
      match percentRest encoding rest with
      | .ok (.parameterReference, _) => .error ⟨.parameterReference, s.length + left⟩
      | .ok _ => .error ⟨.invalidToken, rest.length + left⟩
      | .error (.invalid here) => .error ⟨.invalidToken, here + left⟩
      | .error _ => .error ⟨.invalidToken, s.length + left⟩
    | .half :: _ => .error ⟨.invalidToken, s.length + left⟩
    | .char '\r' :: rest => do
      pure (.char '\n' :: (← entityText encoding left steps (afterReturn rest)))
    | g :: rest => do pure (g :: (← entityText encoding left steps rest))

/-- The declarations with one more entity. Only the first declaration of a name counts. -/
def declareEntity (dtd : Dtd) (target : Target) (entity : Entity) : Dtd :=
  match target with
  | some name => { dtd with entities := dtd.entities ++ [(name, entity)] }
  | none => dtd

/-- The target of a declaration of an entity: none if declarations no longer count, if the name is
predefined, or if it is declared already. -/
def targetOf (dtd : Dtd) (name : List Char) : Target :=
  if !dtd.counts || (predefined? name).isSome || (dtd.entity? name).isSome then none
  else some name

/-- The declarations with the value of an entity, at whose token `start` glyphs were left and
after which `rest` are left. -/
def declareText (encoding : Encoding) (dtd : Dtd) (target : Target) (content : List Glyph)
    (rest : Nat) : Except Flaw Dtd :=
  if dtd.counts then do
    let text ← entityText encoding (rest + 1) (content.length + 1) content
    pure (declareEntity dtd target (.internal text))
  else .ok dtd

/-- The declarations with one more attribute. Only the first declaration of a name counts. -/
def declareAttribute (dtd : Dtd) (rule : AttributeRule) : Dtd :=
  if dtd.counts && (dtd.rule? rule.element rule.name).isNone then
    { dtd with rules := dtd.rules ++ [rule] }
  else dtd

/-- The declarations with one more attribute that has a default value. -/
def declareDefault (encoding : Encoding) (dtd : Dtd) (element name : List Char)
    (isCdata : Bool) (content : List Glyph) (start rest : Nat) : Except Flaw Dtd :=
  if dtd.counts then
    let (parts, outcome) := pieces encoding false none (content.length + 1) content
    match dtd.value isCdata parts with
    | .error flaw => .error ⟨flaw.reason, (flaw.left.map (· + rest + 1)).getD start⟩
    | .ok value =>
      match outcome with
      | .error (.invalid left) => .error ⟨.invalidToken, left + rest + 1⟩
      | .error _ => .error ⟨.invalidToken, start⟩
      | .ok _ => .ok (declareAttribute dtd ⟨element, name, isCdata, some value⟩)
  else .ok dtd

/-- The types of attributes that are given by a word; the first one is character data. -/
def attributeTypes : List String :=
  ["CDATA", "ID", "IDREF", "IDREFS", "ENTITY", "ENTITIES", "NMTOKEN", "NMTOKENS"]

/-- Whether a name is a keyword. -/
def isWord (keyword : String) (cs : List Char) : Bool :=
  cs == keyword.toList

/-! ### Tokens in declarations -/

/-- The state at the opening of a declaration in the subset. -/
def declarationOf? (keyword : List Char) : Option State :=
  [("ENTITY".toList, State.entityName), ("ATTLIST".toList, .listElement),
    ("ELEMENT".toList, .elementName), ("NOTATION".toList, .notationName)].lookup keyword

/-- The state after a connector in a group; the connectors of a level are all the same. -/
def connect? (c : Char) : List (Option Char) → Option State
  | [] => none
  | level :: outer =>
    if level == none || level == some c then some (.group (some c :: outer)) else none

/-- The state after the end of a group. -/
def closeGroup : List (Option Char) → State
  | [] | [_] => .declEnd
  | _ :: outer => .groupNext outer

/-- The state after a token in the declaration of an element. -/
def advanceElement? (state : State) (token : Token) : Option State :=
  match state, token with
  | .elementName, .name _ | .elementName, .prefixedName _ => some .elementKind
  | .elementKind, .name cs => if isWord "EMPTY" cs || isWord "ANY" cs then some .declEnd else none
  | .elementKind, .openParen => some .elementContent
  | .elementContent, .poundName cs => if isWord "PCDATA" cs then some .mixedNext else none
  | .elementContent, .openParen => some (.group [none, none])
  | .elementContent, .name _ | .elementContent, .prefixedName _
  | .elementContent, .repeatedName => some (.groupNext [none])
  | .mixedNext, .closeParen | .mixedNext, .closeStarred => some .declEnd
  | .mixedNext, .bar => some .mixedName
  | .mixedName, .name _ | .mixedName, .prefixedName _ => some .mixedRest
  | .mixedRest, .closeStarred => some .declEnd
  | .mixedRest, .bar => some .mixedName
  | .group levels, .openParen => some (.group (none :: levels))
  | .group levels, .name _ | .group levels, .prefixedName _
  | .group levels, .repeatedName => some (.groupNext levels)
  | .groupNext levels, .closeParen | .groupNext levels, .closeStarred
  | .groupNext levels, .closeRepeated => some (closeGroup levels)
  | .groupNext levels, .comma => connect? ',' levels
  | .groupNext levels, .bar => connect? '|' levels
  | _, _ => none

/-- The state after a token in the declaration of attributes, but for values. -/
def advanceList? (state : State) (token : Token) : Option State :=
  match state, token with
  | .listElement, .name cs | .listElement, .prefixedName cs => some (.listName cs)
  | .listName _, .declClose => some .subset
  | .listName e, .name cs | .listName e, .prefixedName cs => some (.listType e cs)
  | .listType e n, .name cs =>
    if isWord "NOTATION" cs then some (.listNotation e n)
    else if attributeTypes.any (isWord · cs) then some (.listDefault e n (isWord "CDATA" cs))
    else none
  | .listType e n, .openParen => some (.listChoice e n)
  | .listChoice e n, .nameToken | .listChoice e n, .name _
  | .listChoice e n, .prefixedName _ => some (.listNextChoice e n)
  | .listNextChoice e n, .closeParen => some (.listDefault e n false)
  | .listNextChoice e n, .bar => some (.listChoice e n)
  | .listNotation e n, .openParen => some (.listNotationChoice e n)
  | .listNotationChoice e n, .name _ => some (.listNextNotation e n)
  | .listNextNotation e n, .closeParen => some (.listDefault e n false)
  | .listNextNotation e n, .bar => some (.listNotationChoice e n)
  | _, _ => none

/-- The state after a token that changes no declarations. -/
def move? (state : State) (token : Token) : Option State :=
  match state, token with
  | .beforeType, .instruction | .beforeType, .comment => some .beforeType
  | .afterType, .instruction | .afterType, .comment => some .afterType
  | .beforeType, .declOpen keyword =>
    if isWord "DOCTYPE" keyword then some .typeName else none
  | .typeName, .name _ | .typeName, .prefixedName _ => some .typeKind
  | .typeKind, .openBracket | .typeSubset, .openBracket => some .subset
  | .typeKind, .declClose | .typeSubset, .declClose | .typeEnd, .declClose => some .afterType
  | .typeKind, .name cs =>
    if isWord "SYSTEM" cs then some .typeSystem
    else if isWord "PUBLIC" cs then some .typePublic
    else none
  | .subset, .instruction | .subset, .comment => some .subset
  | .subset, .closeBracket => some .typeEnd
  | .subset, .declOpen keyword => declarationOf? keyword
  | .entityName, .percent => some .parameterName
  | .entityKind target, .name cs =>
    if isWord "SYSTEM" cs then some (.entitySystem target)
    else if isWord "PUBLIC" cs then some (.entityPublic target)
    else none
  | .entitySystem target, .literal _ => some (.entityData target)
  | .entityData target, .name cs =>
    if isWord "NDATA" cs then some (.entityNotation target) else none
  | .parameterName, .name _ => some .parameterKind
  | .parameterKind, .name cs =>
    if isWord "SYSTEM" cs then some .parameterSystem
    else if isWord "PUBLIC" cs then some .parameterPublic
    else none
  | .parameterSystem, .literal _ => some .declEnd
  | .notationName, .name _ => some .notationKind
  | .notationKind, .name cs =>
    if isWord "SYSTEM" cs then some .notationSystem
    else if isWord "PUBLIC" cs then some .notationPublic
    else none
  | .notationSystem, .literal _ | .notationEnd, .literal _ => some .declEnd
  | .notationEnd, .declClose | .declEnd, .declClose => some .subset
  | state, token => (advanceElement? state token).or (advanceList? state token)

/-- The flaw that a token is where it must not stand. -/
def tokenFlaw (token : Token) (start : Nat) : Flaw :=
  match token with
  | .parameterReference => ⟨.parameterReference, start⟩
  | .declaration => ⟨.misplacedDeclaration, start⟩
  | _ => ⟨.syntaxError, start⟩

/-- The state and the declarations after a token, at which `start` glyphs were left and after
which `rest` are left. -/
def advance (encoding : Encoding) (state : State) (dtd : Dtd) (token : Token)
    (start rest : Nat) : Except Flaw Progress :=
  match state, token with
  | state, .space => .ok (state, dtd)
  | .typePublic, .literal content => do
    checkPublic content (rest + 1)
    pure (.typeSystem, { dtd with isPartial := true })
  | .typeSystem, .literal _ => .ok (.typeSubset, { dtd with isPartial := true })
  | .subset, .parameterReference =>
    .ok (.subset, { dtd with isPartial := true, counts := dtd.standalone })
  | .entityName, .name cs => .ok (.entityKind (targetOf dtd cs), dtd)
  | .entityKind target, .literal content => do
    pure (.declEnd, ← declareText encoding dtd target content rest)
  | .entityPublic target, .literal content => do
    checkPublic content (rest + 1)
    pure (.entitySystem target, dtd)
  | .entityData target, .declClose => .ok (.subset, declareEntity dtd target .external)
  | .entityNotation target, .name _ => .ok (.declEnd, declareEntity dtd target .unparsed)
  | .parameterKind, .literal content => do
    pure (.declEnd, ← declareText encoding dtd none content rest)
  | .parameterPublic, .literal content => do
    checkPublic content (rest + 1)
    pure (.parameterSystem, dtd)
  | .notationPublic, .literal content => do
    checkPublic content (rest + 1)
    pure (.notationEnd, dtd)
  | .listDefault e n isCdata, .literal content | .listFixed e n isCdata, .literal content => do
    pure (.listName e, ← declareDefault encoding dtd e n isCdata content start rest)
  | .listDefault e n isCdata, .poundName cs =>
    if isWord "IMPLIED" cs || isWord "REQUIRED" cs then
      .ok (.listName e, declareAttribute dtd ⟨e, n, isCdata, none⟩)
    else if isWord "FIXED" cs then .ok (.listFixed e n isCdata, dtd)
    else .error (tokenFlaw token start)
  | state, token =>
    match move? state token with
    | some next => .ok (next, dtd)
    | none => .error (tokenFlaw token start)

/-- Whether the first element may start in a state. -/
def State.allowsElement : State → Bool
  | .beforeType | .afterType => true
  | _ => false

/-- The declarations of the rest of a prolog, and what follows it. At most `steps` tokens are
read. -/
def readFrom (encoding : Encoding) (state : State) (dtd : Dtd) : (steps : Nat) → List Glyph →
    Except Flaw (Dtd × List Glyph)
  | 0, s => .error ⟨.noElement, s.length⟩
  | _, [] => .error ⟨.noElement, 0⟩
  | steps + 1, s =>
    match token encoding s with
    | .error stop => .error (stop.flaw s.length)
    | .ok (.elementStart, _) =>
      if state.allowsElement then .ok (dtd, s) else .error ⟨.syntaxError, s.length⟩
    | .ok (t, rest) => do
      let (state, dtd) ← advance encoding state dtd t s.length rest.length
      readFrom encoding state dtd steps rest

/-- The declarations of a prolog, and what follows it. -/
def read (encoding : Encoding) (standalone : Bool) (s : List Glyph) :
    Except Flaw (Dtd × List Glyph) :=
  readFrom encoding .beforeType { Dtd.empty with standalone } (s.length + 1) s

end PlayerPage.Xml.Prolog
