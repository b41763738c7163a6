import PlayerPage.ContentType
import PlayerPage.Format.Basic
import PlayerPage.Record.Basic
import PlayerPage.Track.Basic

/-!
The layouts of formats and of track metadata. A caller may put any values into their fields.

* `Layout.format`: the fields of a format, and what its content type says.
* `Layout.track`: the fields of track metadata.
* `Record.signedUrl`: the playable address of a format, once the signature has been descrambled.
* `Format.toRecord`, `TrackMetadata.toRecord`: formats and metadata as records.
-/

namespace PlayerPage

namespace Layout

/-- What a content type says, by the name of what is asked for. -/
def mediaTypeOf (values : Members) : Except Fault Value :=
  (ContentType.ofValue (Members.get values "content_type")).map fun t => .str t.mediaType

/-- The codecs that a content type names. -/
def codecsOf (values : Members) : Except Fault Value :=
  (ContentType.ofValue (Members.get values "content_type")).map fun t =>
    .ofOption (t.get? "codecs")

/-- Whether there is a signature to be descrambled. -/
def isCipheredOf (values : Members) : Except Fault Value :=
  .ok (.bool !(Members.get values "signature").isNull)

/-- The layout of formats. -/
def format : Layout where
  name := "Format"
  fields :=
    [("content_type", none), ("bitrate", none), ("content_length", none), ("url", none),
      ("signature", some .null), ("signature_key", some (.str defaultSignatureKey))]
  derived :=
    [("mime_type", mediaTypeOf), ("codecs", codecsOf), ("is_ciphered", isCipheredOf)]

/-- Whether the length is the one that stands for none. -/
def isLengthUnknownOf (values : Members) : Except Fault Value :=
  .ok (.bool ((Members.get values "length").equal (.int TrackMetadata.unknownLength)))

/-- The layout of track metadata. -/
def track : Layout where
  name := "TrackMetadata"
  fields :=
    [("title", none), ("author", none), ("length", none), ("identifier", none),
      ("is_stream", none), ("uri", none)]
  derived := [("is_length_unknown", isLengthUnknownOf)]

/-- The layouts by name. -/
def ofName? (name : String) : Option Layout :=
  [format, track].find? (·.name == name)

end Layout

/-- The playable address of a format whose signature has been descrambled; without a descrambled
one its address as it is. -/
def Record.signedUrl (r : Record) (signature : Value) : Value :=
  let url := Members.get r.values "url"
  if signature.isNull then url
  else
    .str (Format.addSignature url.display (Members.get r.values "signature_key").display
      signature.display)

/-- A format as a record. -/
def Format.toRecord (f : Format) : Record where
  layout := .format
  values :=
    [("content_type", .str f.contentType), ("bitrate", .int f.bitrate),
      ("content_length", .int f.contentLength), ("url", .str f.url),
      ("signature", .ofOption f.signature), ("signature_key", .str f.signatureKey)]

/-- Track metadata as a record. -/
def TrackMetadata.toRecord (m : TrackMetadata) : Record where
  layout := .track
  values :=
    [("title", .ofOption m.title), ("author", .ofOption m.author), ("length", .int m.length),
      ("identifier", m.identifier), ("is_stream", .bool m.isStream), ("uri", m.uri)]

end PlayerPage
