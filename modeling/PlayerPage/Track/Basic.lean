import PlayerPage.Value.Basic

/-!
What is known of a track besides its formats.

* `TrackMetadata`: title, author, length in milliseconds and where the track is.
* `TrackMetadata.unknownLength`: the length of a live stream, which is no real one.
-/

namespace PlayerPage

/-- What is known of a track besides its formats. -/
structure TrackMetadata where
  title : Option String
  author : Option String
  /-- The length in milliseconds. -/
  length : Int
  identifier : Value
  isStream : Bool
  uri : Value

namespace TrackMetadata

/-- The length of a track that has no end yet. -/
def unknownLength : Int := 9223372036854775807

/-- Whether the length is not known. -/
def isLengthUnknown (m : TrackMetadata) : Bool :=
  m.length == unknownLength

end TrackMetadata

end PlayerPage
