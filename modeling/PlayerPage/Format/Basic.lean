import PlayerPage.ContentType

/-!
Formats: the playable stream variants of a track.

* `Format`: what is known of a variant; its bit rate is a real one, or a negative stand-in where a
  schema names only a quality.
* `Format.mediaType?`, `Format.codecs?`: what its content type says.
* `Format.signedUrl`: the playable address, once the signature has been descrambled.
-/

namespace PlayerPage

/-- The name of the query parameter for a signature, unless a format names another. -/
def defaultSignatureKey : String := "signature"

/-- One playable stream variant of a track. With a signature, the address is the base that still
needs the descrambled signature. -/
structure Format where
  contentType : String
  bitrate : Int
  contentLength : Int
  url : String
  signature : Option String
  signatureKey : String
  deriving DecidableEq, Repr

namespace Format

/-- The address with a signature added to its query. -/
def addSignature (url key signature : String) : String :=
  url ++ "&" ++ key ++ "=" ++ signature

/-- The playable address of a format whose signature has been descrambled; without a descrambled
one its address as it is. -/
def signedUrl (f : Format) (signature : Option String) : String :=
  match signature with
  | none => f.url
  | some signature => addSignature f.url f.signatureKey signature

/-- The content type taken apart. -/
def contentType? (f : Format) : Option ContentType :=
  ContentType.parse? f.contentType.toList

/-- The media type. -/
def mediaType? (f : Format) : Option String :=
  f.contentType?.map (·.mediaType)

/-- The codecs that the content type names. -/
def codecs? (f : Format) : Option String :=
  f.contentType?.bind (·.get? "codecs")

end Format

end PlayerPage
