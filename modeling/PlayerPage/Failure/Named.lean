import PlayerPage.Failure
import PlayerPage.Http.Response

/-!
Failures that callers make: by the name of a class, with arguments by position or by name.

* `Arguments`, `Parameters`: what a caller gives, and what a class takes.
* `Parameters.bind`: which parameter gets which argument, or why the arguments do not fit.
* `Failure.ofName`: the failure of a class with these arguments.
* `Failure.ofStatus`: the error about an answer with a status.
-/

namespace PlayerPage

/-- The arguments of a caller: by position, and by name. -/
structure Arguments where
  positional : List Cause
  named : List (String × Cause)

/-- What a class takes: parameters that must be given, and parameters that may be missing. If it
is `takesMore`, it takes any further names too. -/
structure Parameters where
  name : String
  required : List String
  optional : List String
  takesMore : Bool

/-- Arguments by parameter. -/
abbrev Bound := List (String × Cause)

namespace Parameters

/-- The names of the parameters, in order. -/
def names (p : Parameters) : List String :=
  p.required ++ p.optional

/-- The arguments by parameter after named ones were added, and the named ones that no parameter
takes. -/
def bindNamed (p : Parameters) (bound extra : Bound) :
    List (String × Cause) → Except Fault (Bound × Bound)
  | [] => .ok (bound, extra)
  | (name, v) :: rest =>
    if p.names.contains name then
      if (bound.lookup name).isSome then .error (.repeatedArgument p.name name)
      else p.bindNamed (bound ++ [(name, v)]) extra rest
    else if p.takesMore then p.bindNamed bound (extra ++ [(name, v)]) rest
    else .error (.unexpectedArgument p.name name)

/-- The arguments by parameter, and the named ones that no parameter takes. What is made counts
as an argument itself in messages about their number. -/
def bind (p : Parameters) (arguments : Arguments) : Except Fault (Bound × Bound) := do
  let (bound, extra) ← p.bindNamed (p.names.zip arguments.positional) [] arguments.named
  if p.names.length < arguments.positional.length then
    throw (.tooManyArguments p.name (p.required.length + 1) (p.names.length + 1)
      (arguments.positional.length + 1))
  match p.required.filter fun name => (bound.lookup name).isNone with
  | [] => pure (bound, extra)
  | names => throw (.missingArguments p.name names)

/-- The parameters of plain errors. -/
def track : Parameters :=
  ⟨"TrackError.__init__()", [], ["msg"], false⟩

/-- The parameters of errors of requests. -/
def request : Parameters :=
  ⟨"RequestError.__init__()", [], ["msg", "cause", "handler"], false⟩

/-- The parameters of errors of the extraction. -/
def extraction : Parameters :=
  ⟨"ExtractorError.__init__()", ["msg"], ["cause", "video_id", "ie", "severity"], false⟩

/-- The parameters of the error that a video cannot be played. -/
def unplayable : Parameters :=
  ⟨"UnplayableVideoError.__init__()", ["reason"], ["video_id"], false⟩

/-- The parameters of the error that no field holds formats. -/
def unrecognized : Parameters :=
  ⟨"UnrecognizedFormatsError.__init__()", [], ["arguments"], true⟩

/-- The parameters of the error that a manifest could not be fetched. -/
def download : Parameters :=
  ⟨"ManifestDownloadError.__init__()", ["msg"], ["status"], true⟩

end Parameters

namespace Bound

/-- An argument; nothing if it is not given. -/
def cause (bound : Bound) (name : String) : Cause :=
  (bound.lookup name).getD (.value .null)

/-- The value of an argument; null if it is not given. -/
def value (bound : Bound) (name : String) : Value :=
  match bound.cause name with
  | .value v => v
  | .failure _ => .null

/-- The severity of an argument, if one is given. -/
def severity? (bound : Bound) : Except Fault (Option Severity) :=
  match bound.value "severity" with
  | .null => .ok none
  | v =>
    match v.str?.bind Severity.ofName? with
    | some severity => .ok (some severity)
    | none => .error (.badSeverity v)

end Bound

namespace Failure

/-- The error of the extraction of an occasion, with its arguments. -/
def ofExtraction (occasion : Occasion) (bound : Bound) : Except Fault Failure := do
  let severity := (← bound.severity?).getD occasion.severity
  pure (.extraction occasion severity (bound.value "msg").display (bound.cause "cause")
    (bound.value "video_id") (bound.value "ie"))

/-- The error of the extraction with a text, and further arguments by name. -/
def ofExtra (occasion : Occasion) (text : Value) (extra : Bound) : Except Fault Failure := do
  let (bound, _) ← Parameters.extraction.bind ⟨[.value text], extra⟩
  ofExtraction occasion bound

/-- The plain error with its arguments, or the error of a class derived from it, where `own` is the
text that it has without any. -/
def ofTrack (derived : Option String) (own : String) (arguments : Arguments) :
    Except Fault Failure := do
  let (bound, _) ← Parameters.track.bind arguments
  pure (.track derived (match bound.value "msg" with | .null => .str own | v => v))

/-- The error of a request with its arguments. -/
def ofRequest (transport : Bool) (arguments : Arguments) : Except Fault Failure := do
  let (bound, _) ← Parameters.request.bind arguments
  let sender :=
    match bound.value "handler" with
    | .null => Sender.unset
    | v => .given v
  pure (requestError transport (bound.value "msg") (bound.cause "cause") sender)

/-- The failure of a class with these arguments; there may be no such class. -/
def ofName (name : String) (arguments : Arguments) : Except Fault (Option Failure) :=
  match name with
  | "TrackError" => some <$> ofTrack none "TrackError" arguments
  | "RequestError" => some <$> ofRequest false arguments
  | "TransportError" => some <$> ofRequest true arguments
  | "ExtractorError" => some <$> do
    let (bound, _) ← Parameters.extraction.bind arguments
    ofExtraction .general bound
  | "SignatureResolutionError" => some <$> do
    let (bound, _) ← Parameters.extraction.bind arguments
    ofExtraction .signature bound
  | "UnplayableVideoError" => some <$> do
    let (bound, _) ← Parameters.unplayable.bind arguments
    pure (unplayable (bound.value "reason") (bound.value "video_id"))
  | "UnrecognizedFormatsError" => some <$> do
    let (bound, extra) ← Parameters.unrecognized.bind arguments
    ofExtra (.unrecognized (bound.value "arguments")) (.str unrecognizedText) extra
  | "ManifestDownloadError" => some <$> do
    let (bound, extra) ← Parameters.download.bind arguments
    ofExtra (.download (bound.value "status")) (bound.value "msg") extra
  | _ => .ok none

/-- The error about an answer with a status, which no handler has raised yet. -/
def ofStatus (status reason : Value) : Failure :=
  let phrase := Value.ofOption (Http.Status.phrase? status)
  .http status (if reason.isNull then phrase else reason) 0 .unset

end Failure

end PlayerPage
