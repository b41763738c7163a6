import PlayerPage.Value.Template

/-!
Failures: how the work on a page, or a step of it, ends without a result.

* `Failure`: a fault, an error of the extraction with its severity and cause, or an error of a
  request; `Cause` is what such an error was caused by.
* `Failure.message`, `Failure.literal`: the text of a failure, and the text that shows it inside
  another message.
* `reportHint`: the request to report what nobody expected; it follows the text of every
  suspicious extraction error.
* `Failure.extractor`, `Failure.unplayable`, …: the errors of the extraction, by occasion.
-/

namespace PlayerPage

/-- How an extraction error should be treated: the video cannot be played anyway, the document
was not understood, or something outside of the document broke. -/
inductive Severity where
  | common
  | suspicious
  | fault
  deriving DecidableEq, Repr

/-- The name of a severity. -/
def Severity.name : Severity → String
  | .common => "common"
  | .suspicious => "suspicious"
  | .fault => "fault"

/-- The severity of a name. -/
def Severity.ofName? (name : String) : Option Severity :=
  [Severity.common, .suspicious, .fault].find? (·.name == name)

/-- The occasions of extraction errors, with what belongs to each alone. -/
inductive Occasion where
  | general
  /-- The platform reports the video as unplayable, for this reason. -/
  | unplayable (reason : Value)
  /-- None of the arguments of the player holds formats. -/
  | unrecognized (arguments : Value)
  /-- The manifest could not be fetched; the status of the answer, if there was one. -/
  | download (status : Value)
  /-- The address of the manifest could not be resolved. -/
  | signature

/-- The handler that a request error names: none yet, the one that raised it, or another. -/
inductive Sender where
  | unset
  | self
  | given (v : Value)

mutual

/-- How work ends without a result. -/
inductive Failure where
  | fault (fault : Fault)
  /-- An error of the library of no particular class, or of a class that a caller derived. -/
  | track (derived : Option String) (text : Value)
  | extraction (occasion : Occasion) (severity : Severity) (text : String) (cause : Cause)
      (videoId ie : Value)
  /-- A request without a usable response; `transport` if the connection broke. -/
  | request (transport : Bool) (text : Value) (cause : Cause) (sender : Sender)
  /-- A response with an error status; `response` counts the responses before it. -/
  | http (status reason : Value) (response : Nat) (sender : Sender)

/-- What an error was caused by: a value (null for nothing) or another failure. -/
inductive Cause where
  | value (v : Value)
  | failure (f : Failure)

end

instance : Inhabited Failure := ⟨.fault .closed⟩

/-- The request to report what nobody expected, after `before`. It starts a sentence of its own
if there is nothing before it or what is before it ends one. -/
def reportHint (before : String) : String :=
  let before := Text.dropTrailing Text.isBlank before.toList
  let start :=
    match before.getLast? with
    | none => 'P'
    | some c => if c == '.' || c == '!' || c == '?' then 'P' else 'p'
  String.ofList (if before.isEmpty then [] else before ++ [' ']) ++ String.singleton start ++
    "lease report this issue on  https://github.com/yt-track/yt-track/issues?q= , " ++
    "including the video id and the full verbose output"

/-- The same after a value, which has to be a text. -/
def reportHintAfter (before : Value) : Except Fault String :=
  match before with
  | .str s => .ok (reportHint s)
  | v => .error (.noAttribute v.kindName "rstrip")

namespace Occasion

/-- The name of the class of extraction errors. -/
def name : Occasion → String
  | .general => "ExtractorError"
  | .unplayable _ => "UnplayableVideoError"
  | .unrecognized _ => "UnrecognizedFormatsError"
  | .download _ => "ManifestDownloadError"
  | .signature => "SignatureResolutionError"

/-- The severity of an error unless another one is given. -/
def severity : Occasion → Severity
  | .general | .unrecognized _ => .suspicious
  | .unplayable _ => .common
  | .download _ | .signature => .fault

end Occasion

namespace Failure

/-- The name of the class of a failure. -/
def className : Failure → String
  | .fault f => f.kind.name
  | .track derived _ => derived.getD "TrackError"
  | .extraction occasion .. => occasion.name
  | .request transport .. => if transport then "TransportError" else "RequestError"
  | .http .. => "HTTPError"

/-- The names of the classes that the class of a failure belongs to, the nearest first. -/
def families : Failure → List String
  | .fault _ => []
  | .track derived _ => if derived.isSome then ["TrackError"] else []
  | .extraction .general .. => ["TrackError"]
  | .extraction .. => ["ExtractorError", "TrackError"]
  | .request transport .. => if transport then ["RequestError", "TrackError"] else ["TrackError"]
  | .http .. => ["RequestError", "TrackError"]

/-- The text of an answer with an error status. -/
def statusText (status reason : Value) : String :=
  status.display ++ ": " ++ reason.display

/-- The text that shows a failure with the text `message` inside another message: its class and
what it carries; an answer with an error status is shown by its status. -/
def shown (f : Failure) (message : String) : String :=
  match f with
  | .fault e => e.literal
  | .track _ text | .request _ text _ _ => f.className ++ "(" ++ text.literal ++ ")"
  | .extraction .. => f.className ++ "(" ++ (Value.str message).literal ++ ")"
  | .http status reason _ _ => "<HTTPError " ++ statusText status reason ++ ">"

mutual

/-- The text of a failure. An extraction error names the extractor, the video and the cause; the
reason why a video is unplayable is given as it is. -/
def message : Failure → String
  | .fault f => f.message
  | .track _ text => text.display
  | .extraction (.unplayable _) _ text _ _ _ => text
  | .extraction _ severity text cause videoId ie =>
    ie.around "[" "] " ++ videoId.around "" ": " ++ text ++ causeText cause ++
      if severity = .suspicious then reportHint ";" else ""
  | .request _ text _ _ => text.display
  | .http status reason _ _ => "HTTP Error " ++ statusText status reason

/-- The part of an error's text that names its cause, if there is one. -/
def causeText : Cause → String
  | .value v => if v.holds then " (caused by " ++ v.literal ++ ")" else ""
  | .failure f => " (caused by " ++ shown f (message f) ++ ")"

end

/-- The text that shows a failure inside another message. -/
def literal (f : Failure) : String :=
  f.shown f.message

/-- Whether the failure is an error of a request. -/
def isRequest : Failure → Bool
  | .request .. | .http .. => true
  | _ => false

/-- Whether the failure is an error of the extraction. -/
def isExtraction : Failure → Bool
  | .extraction .. => true
  | _ => false

/-- Whether nobody needs to be told: the video cannot be played anyway. -/
def isExpected : Failure → Bool
  | .extraction _ severity .. => severity = .common
  | _ => false

/-- An error of the extraction of the default severity. -/
def extractor (text : String) (cause : Cause) (videoId ie : Value) : Failure :=
  .extraction .general .suspicious text cause videoId ie

/-- The platform reports the video as unplayable; a missing or empty reason is replaced. -/
def unplayable (reason videoId : Value) : Failure :=
  .extraction (.unplayable reason) .common
    (reason.orElse (.str "This video is unavailable")).display (.value .null) videoId .null

/-- The text of the error that no known field holds formats. -/
def unrecognizedText : String :=
  "Unable to play this YouTube track: no adaptive formats, no dash, no stream map"

/-- None of the known fields of the arguments holds formats. -/
def unrecognized (arguments videoId ie : Value) : Failure :=
  .extraction (.unrecognized arguments) .suspicious unrecognizedText (.value .null) videoId ie

/-- The manifest could not be fetched. -/
def download (text : String) (status : Value) (cause : Cause) (videoId ie : Value) : Failure :=
  .extraction (.download status) .fault text cause videoId ie

/-- The address of the manifest could not be resolved. -/
def signature (text : String) : Failure :=
  .extraction .signature .fault text (.value .null) .null .null

/-- The text of a request error: the given one, or that of its cause, or the name of its class. -/
def requestText (transport : Bool) (text : Value) (cause : Cause) : Value :=
  if text.holds then text
  else
    let causeText :=
      match cause with
      | .value v => if v.holds then v.display else ""
      | .failure f => f.message
    if causeText != "" then .str causeText
    else .str (if transport then "TransportError" else "RequestError")

/-- A request error with the given text, or that of its cause. -/
def requestError (transport : Bool) (text : Value) (cause : Cause) (sender : Sender) : Failure :=
  .request transport (requestText transport text cause) cause sender

/-- The same failure, with the handler named that raised it, if none is named yet. -/
def sentBySelf : Failure → Failure
  | .request transport text cause .unset => .request transport text cause .self
  | .http status reason response .unset => .http status reason response .self
  | f => f

end Failure

end PlayerPage
