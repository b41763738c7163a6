import PlayerPage.Extractor.Basic
import PlayerPage.Json.Source
import PlayerPage.Xml.Document

/-!
Documents that an extractor reads: a text that is no such document is an error of the extraction.

* `Extractor.parseJson`, `Extractor.parseXml`: a document at hand.
* `Extractor.downloadXml`: a document that is fetched with one request; every response that came
  is closed in the end.
-/

namespace PlayerPage.Extractor

/-- The error that a document is not understood. -/
def misread (e : Extractor) (videoId note : Value) (f : Fault) : Failure :=
  .extractor note.display (.failure (.fault f)) videoId e.nameValue

/-- The value of a JSON document. -/
def parseJson (e : Extractor) (document videoId note : Value) : Except Failure Value :=
  match Json.load document with
  | .ok v => .ok v
  | .error f => .error (if f.isAboutValue then e.misread videoId note f else .fault f)

/-- The source of an XML document: of a text, its bytes. -/
def xmlSource (document : Value) : Except Fault Xml.Source :=
  match document with
  | .str s => .ok (.bytes (Text.Utf8.encode s.toList))
  | .bytes b => .ok (.bytes b)
  | v => .error (.notBytes v.kindName)

/-- The tree of an XML document. -/
def parseXml (e : Extractor) (document videoId note : Value) : Except Failure Xml.Element :=
  match xmlSource document >>= Xml.read with
  | .ok tree => .ok tree
  | .error f => .error (if f.kind == .xml then e.misread videoId note f else .fault f)

/-- What an error says about a document that could not be parsed, unless told otherwise. -/
def xmlNote : Value := .str "Failed to parse XML"

/-! ### Fetched documents -/

/-- The text of the error about an answer with a status that is no success. -/
def statusNote (note status : Value) : String :=
  note.display ++ ": invalid status code " ++ status.display

/-- The error about an answer with a status that is no success. -/
def statusFailure (e : Extractor) (videoId note status : Value) (cause : Cause) : Failure :=
  .download (statusNote note status) status cause videoId e.nameValue

/-- The error about a request that failed. Any other failure stays what it is. -/
def requestFailure (e : Extractor) (videoId note : Value) (f : Failure) : Failure :=
  if f.isRequest then .download note.display .null (.failure f) videoId e.nameValue else f

/-- The answer to the request for a document. An answer that is refused is closed. -/
def fetch (e : Extractor) (handler : Http.Handler) (request : Http.Request)
    (videoId note : Value) : Run (Nat × Http.Response) :=
  tryCatch (Run.send handler request) fun f =>
    match f with
    | .http status _ index _ => do
      Run.close index
      throw (e.statusFailure videoId note status (.failure f))
    | f => throw (e.requestFailure videoId note f)

/-- The bytes of the answer to the request for a document, if its status tells of success. -/
def bytesOf (e : Extractor) (answer : Nat × Http.Response) (videoId note : Value) :
    Run (List UInt8) := do
  let (index, response) := answer
  if !response.status.equal (.int 200) then
    throw (e.statusFailure videoId note response.status (.value .null))
  tryCatch (Run.read index response .null) fun f => throw (e.requestFailure videoId note f)

/-- The tree of an XML document that is fetched from an address with one request. A response that
comes closed is of no use. -/
def downloadXml (e : Extractor) (handler : Option Http.Handler) (url videoId : Value)
    (announcement note : Value) : Run Xml.Element := do
  if announcement.holds then e.tell videoId ⟨.debug, announcement⟩
  match handler with
  | none => throw (.fault (.noAttribute Value.Kind.null.name "send"))
  | some handler => do
    let request ← Run.ofFault (Http.Request.make url .null .null)
    let answer ← e.fetch handler request videoId note
    Run.ofFault answer.2.enter
    let bytes ← Run.closing answer.1 (e.bytesOf answer videoId note)
    Run.ofExcept (e.parseXml (.bytes bytes) videoId xmlNote)

end PlayerPage.Extractor
