import PlayerPage.Extractor.Listing
import PlayerPage.Xml.Element

/-!
Manifests: documents that describe formats as representations in adaptation sets.

* `Manifest.pairs`: the representations of a document, each with the set that it is in.
* `Manifest.entry`: what a representation gives: a format, nothing without a length in its
  address, or a flaw that makes the whole document unusable.
* `Manifest.read`: the formats up to the first flaw.
* `readManifest`: the same with reports, where a flaw is an error of the extraction.
-/

namespace PlayerPage

open Xml

namespace Manifest

/-- What makes a whole document unusable. -/
inductive Flaw where
  | noUrl (id : Option String)
  | badBandwidth (bandwidth : Option String) (contentType : String) (fault : Fault)

/-- What a representation gives. -/
inductive Entry where
  | format (f : Format)
  | unmeasured (contentType : String)
  | broken (flaw : Flaw)

/-- The representations of a document, each after the set that it is in. -/
def pairs (document : Element) : List (Element × Element) :=
  (document.named "AdaptationSet").flatMap fun set =>
    (set.named "Representation").map fun representation => (set, representation)

/-- What a manifest names as the media type of a representation: what the set names, or else the
representation; nothing if neither does. -/
def mediaTypeOf (set representation : Element) : String :=
  (((set.get? "mimeType").filter (· != "")).or (representation.get? "mimeType")).getD ""

/-- What a manifest names as the codecs of a representation: what the representation names, or else
the set; nothing if neither does. -/
def codecsOf (set representation : Element) : String :=
  ((representation.get? "codecs").or (set.get? "codecs")).getD ""

/-- The content type of a representation. -/
def contentTypeOf (set representation : Element) : String :=
  mediaTypeOf set representation ++ "; codecs=" ++ codecsOf set representation

/-- The address of a representation: the text of the first one, if it is not blank. -/
def url? (representation : Element) : Option String :=
  match representation.named "BaseURL" with
  | [] => none
  | e :: _ =>
    (e.leadingText?.map fun s => String.ofList (Text.trim s.toList)).filter (· != "")

/-- What a representation in a set gives. -/
def entry (set representation : Element) : Entry :=
  match url? representation with
  | none => .broken (.noUrl (representation.get? "id"))
  | some url =>
    let contentType := contentTypeOf set representation
    match Format.lengthInUrl? "/clen/" "/" url with
    | none => .unmeasured contentType
    | some contentLength =>
      let bandwidth := representation.get? "bandwidth"
      match (Value.ofOption bandwidth).integer with
      | .error f => .broken (.badBandwidth bandwidth contentType f)
      | .ok bitrate =>
        .format ⟨contentType, bitrate, contentLength, url, none, defaultSignatureKey⟩

/-- What the representations of a document give, in order. -/
def entries (document : Element) : List Entry :=
  (pairs document).map fun (set, representation) => entry set representation

/-- The report about a representation without a length in its address. -/
def unmeasuredReport (contentType : String) : Report :=
  .debug ("Skipping format " ++ contentType ++ " because the content length is missing")

/-- The formats and reports of entries up to the first flaw, and the flaw. -/
def collect : List Entry → Listing × Option Flaw
  | [] => (⟨[], []⟩, none)
  | .broken flaw :: _ => (⟨[], []⟩, some flaw)
  | .format f :: rest =>
    let (listing, flaw) := collect rest
    (⟨f :: listing.formats, listing.reports⟩, flaw)
  | .unmeasured contentType :: rest =>
    let (listing, flaw) := collect rest
    (⟨listing.formats, unmeasuredReport contentType :: listing.reports⟩, flaw)

/-- The formats and reports of a document up to the first flaw, and the flaw. -/
def read (document : Element) : Listing × Option Flaw :=
  collect (entries document)

/-- The error of the extraction that a flaw is. -/
def Flaw.toFailure (flaw : Flaw) (videoId ie : Value) : Failure :=
  match flaw with
  | .noUrl id =>
    .extractor ("Representation " ++ (Value.ofOption id).display ++ " has no BaseURL")
      (.value .null) videoId ie
  | .badBandwidth bandwidth contentType fault =>
    .extractor
      ("Invalid bandwidth " ++ (Value.ofOption bandwidth).literal ++ " for format " ++
        contentType)
      (.failure (.fault fault)) videoId ie

end Manifest

/-- The formats of a manifest. An extractor reports what is left out. -/
def readManifest (e : Option Extractor) (document : Element) (videoId : Value) :
    Run (List Format) := do
  let (listing, flaw) := Manifest.read document
  let formats ← listing.deliver e videoId
  match flaw with
  | none => pure formats
  | some flaw =>
    throw (flaw.toFailure videoId ((e.map Extractor.nameValue).getD .null))

end PlayerPage
