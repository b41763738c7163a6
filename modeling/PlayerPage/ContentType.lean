import PlayerPage.Fault
import PlayerPage.Text.Blank
import PlayerPage.Text.Case
import PlayerPage.Text.Class
import PlayerPage.Text.Search

/-!
Content types: a media type such as `video/mp4`, followed by parameters.

* `ContentType.isMediaType`: two non-empty names with a slash between them.
* `ContentType.parse?`: the content type that a text denotes, if it starts with a media type.
* `ContentType.ofValue`: the same for a value, with the fault of one that denotes none.
-/

namespace PlayerPage

open Text

/-- A content type. Of parameters of one name the last counts. -/
structure ContentType where
  mediaType : String
  parameters : List (String × String)
  deriving DecidableEq, Repr

namespace ContentType

/-- The characters of the names in a media type. -/
def isNameChar (c : Char) : Bool :=
  isWord c || c == '.' || c == '+' || c == '-'

/-- Whether a text is two names with a slash between them. -/
def isMediaType (s : List Char) : Bool :=
  match pieces '/' s with
  | [type, subtype] =>
    !type.isEmpty && !subtype.isEmpty && type.all isNameChar && subtype.all isNameChar
  | _ => false

/-- A text in lower case without the blanks at its ends. -/
def fold (s : List Char) : List Char :=
  toLower (trim s)

/-- The parameter `name=value`, whose value may be quoted; none without a name. -/
def parameter? (s : List Char) : Option (String × String) :=
  let (name, value) := cutAtChar '=' s
  let name := fold name
  if name.isEmpty then none
  else some (String.ofList name, String.ofList (trimBy (· == '"') (trim value)))

/-- The content type that a text denotes. -/
def parse? (s : List Char) : Option ContentType :=
  match pieces ';' s with
  | [] => none
  | first :: rest =>
    let mediaType := fold first
    if isMediaType mediaType then
      some ⟨String.ofList mediaType, rest.filterMap parameter?⟩
    else none

/-- The content type that a value denotes. -/
def ofValue (v : Value) : Except Fault ContentType :=
  match v with
  | .str s =>
    match parse? s.toList with
    | some t => .ok t
    | none => .error (.badContentType v)
  | v => .error (.badContentType v)

/-- The value of the last parameter `name`. -/
def get? (t : ContentType) (name : String) : Option String :=
  t.parameters.reverse.lookup name

/-- The parameters as an object, in which a name has the place of its first parameter. -/
def members (t : ContentType) : Members :=
  Members.ofTexts t.parameters

end ContentType

end PlayerPage
