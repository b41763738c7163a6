import PlayerPage.Xml.Scan

/-!
The tokens of the prolog: of what stands before the first element, a document type included.

* `Token`, `token`: a token and what follows it.
-/

namespace PlayerPage.Xml.Prolog

/-- A token of the prolog. -/
inductive Token where
  | space
  /-- A declaration of the version and encoding of the document. -/
  | declaration
  | instruction
  | comment
  | declOpen (keyword : List Char)
  | declClose
  | sectionMark
  | name (cs : List Char)
  | prefixedName (cs : List Char)
  | nameToken
  | repeatedName
  | poundName (cs : List Char)
  | literal (content : List Glyph)
  | percent
  | parameterReference
  | openBracket
  | closeBracket
  | openParen
  | closeParen
  | closeStarred
  | closeRepeated
  | bar
  | comma
  /-- The first element starts here. -/
  | elementStart

/-- A token with what follows it, or why it does not end. -/
abbrev Scanned := Except Stop (Token × List Glyph)

/-- Half a code unit after the last token of a text belongs to this token. In a name it stands as a
character that no name and no keyword has. -/
def halfChar : Char := '\x00'

/-- The kinds of names: without a colon, with one between two names, and others. -/
inductive NameKind where
  | plain
  | prefixed
  | other
  deriving DecidableEq

/-- The token of a name. -/
def NameKind.token (kind : NameKind) (cs : List Char) : Token :=
  match kind with
  | .plain => .name cs
  | .prefixed => .prefixedName cs
  | .other => .nameToken

/-- The rest of a name of which the characters `read` (the last one first) have been read. -/
def nameRest (encoding : Encoding) (kind : NameKind) (read : List Char) : List Glyph → Scanned
  | [] => .ok (kind.token read.reverse, [])
  | .half :: _ => .ok (kind.token (halfChar :: read).reverse, [])
  | .char c :: rest =>
    if encoding.continuesName c then nameRest encoding kind (c :: read) rest
    else if c == ':' then
      match kind, rest with
      | .plain, [] | .plain, .half :: _ => .error .unclosed
      | .plain, .cut :: _ => .error .cut
      | .plain, .char d :: more =>
        if encoding.continuesName d then nameRest encoding .prefixed (d :: ':' :: read) more
        else nameRest encoding .other (':' :: read) (.char d :: more)
      | _, rest => nameRest encoding .other (':' :: read) rest
    else if isSpace c || ['>', ')', ',', '|', '[', '%'].contains c then
      .ok (kind.token read.reverse, .char c :: rest)
    else if c == '+' || c == '*' || c == '?' then
      if kind = .other then .error (.invalid (rest.length + 1)) else .ok (.repeatedName, rest)
    else .error (.invalid (rest.length + 1))
  | rest => .error (refused rest)

/-- The rest of a token that starts with an exclamation mark, after it. -/
def declRest (encoding : Encoding) (s : List Glyph) : Scanned :=
  match s with
  | .char '-' :: rest => do pure (.comment, ← comment rest)
  | .char '[' :: rest => .ok (.sectionMark, rest)
  | s =>
    match spanChars encoding.isKeywordLetter s with
    | ([], _) => .error (misplaced s)
    | (keyword, rest) =>
      match rest with
      | .char '%' :: [] | .char '%' :: .half :: _ => .error .unclosed
      | .char '%' :: .char c :: _ =>
        if isSpace c || c == '%' then .error (.invalid rest.length)
        else .ok (.declOpen keyword, rest)
      | rest =>
        if startsWithSpace rest || rest.head? == some (.char '%') then
          .ok (.declOpen keyword, rest)
        else .error (misplaced rest)

/-- The rest of a token that starts with a percent sign, after it. -/
def percentRest (encoding : Encoding) (s : List Glyph) : Scanned :=
  if startsWithSpace s || s.head? == some (.char '%') then .ok (.percent, s)
  else do
    let (_, rest) ← name encoding s
    match rest with
    | .char ';' :: rest => pure (.parameterReference, rest)
    | rest => .error (refused rest)

/-- The rest of a token that starts with a number sign, after it. -/
def poundRest (encoding : Encoding) (s : List Glyph) : Scanned := do
  let (n, rest) ← name encoding s
  match rest with
  | [] => pure (.poundName n, [])
  | .half :: _ => pure (.poundName (n ++ [halfChar]), [])
  | .char c :: more =>
    if isSpace c || [')', '>', '%', '|'].contains c then pure (.poundName n, .char c :: more)
    else .error (.invalid rest.length)
  | rest => .error (refused rest)

/-- The rest of a literal after its opening quote. Only certain characters may follow it. -/
def literalRest (quote : Char) (s : List Glyph) : Scanned := do
  let (content, rest) ← literal quote s
  match rest with
  | [] => pure (.literal content, [])
  | .half :: _ => pure (.literal (content ++ [.half]), [])
  | .char c :: more =>
    if isSpace c || ['>', '%', '['].contains c then pure (.literal content, .char c :: more)
    else .error (.invalid rest.length)
  | rest => .error (.invalid rest.length)

/-- The rest of a token that starts with a closing bracket, after it. -/
def bracketRest (s : List Glyph) : Scanned :=
  match s with
  | [] | .half :: _ => .ok (.closeBracket, [])
  | .char ']' :: .char '>' :: rest => .ok (.sectionMark, rest)
  | [.char ']'] | [.char ']', .half] => .error .unclosed
  | s => .ok (.closeBracket, s)

/-- The rest of a token that starts with a closing parenthesis, after it. -/
def parenRest (s : List Glyph) : Scanned :=
  match s with
  | [] | .half :: _ => .ok (.closeParen, [])
  | .char c :: rest =>
    if c == '*' then .ok (.closeStarred, rest)
    else if c == '?' || c == '+' then .ok (.closeRepeated, rest)
    else if isSpace c || ['>', ',', '|', ')'].contains c then .ok (.closeParen, s)
    else .error (.invalid s.length)
  | s => .error (.invalid s.length)

/-- The rest of a token that starts with an angle bracket, after it. -/
def angleRest (encoding : Encoding) (s : List Glyph) : Scanned :=
  match s with
  | .char '!' :: rest => declRest encoding rest
  | .char '?' :: rest => do
    let (declaration, rest) ← instruction encoding rest
    pure (if declaration then .declaration else .instruction, rest)
  | .char c :: _ =>
    if encoding.opensElement c then .ok (.elementStart, s) else .error (misplaced s)
  | .cut :: _ | .broken :: _ => .ok (.elementStart, s)
  | s => .error (misplaced s)

/-- The token at the front of a text that does not end there. -/
def token (encoding : Encoding) (s : List Glyph) : Scanned :=
  match s with
  | .char c :: rest =>
    if isSpace c then .ok (.space, skipSpaces rest)
    else if c == '<' then angleRest encoding rest
    else if c == '"' || c == '\'' then literalRest c rest
    else if c == '%' then percentRest encoding rest
    else if c == ',' then .ok (.comma, rest)
    else if c == '[' then .ok (.openBracket, rest)
    else if c == ']' then bracketRest rest
    else if c == '(' then .ok (.openParen, rest)
    else if c == ')' then parenRest rest
    else if c == '|' then .ok (.bar, rest)
    else if c == '>' then .ok (.declClose, rest)
    else if c == '#' then poundRest encoding rest
    else if encoding.startsName c then nameRest encoding .plain [c] rest
    else if encoding.continuesName c || c == ':' then nameRest encoding .other [c] rest
    else .error (.invalid s.length)
  | s => .error (refused s)

end PlayerPage.Xml.Prolog
