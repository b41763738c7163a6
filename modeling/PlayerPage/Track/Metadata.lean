import PlayerPage.Extractor.Document
import PlayerPage.Track.Basic
import PlayerPage.Value.Coerce
import PlayerPage.Value.Find

/-!
Where a page tells of its track: in the arguments of the player, or in the response of the
player, which is one of them.

* `TrackFacts`: what both schemas tell.
* `TrackFacts.ofArguments`, `TrackFacts.ofResponse`: the facts, or the reason why the video cannot
  be played.
* `Extractor.track`: the metadata that the facts amount to.
* `Extractor.trackOfPage`: the metadata of a page.
-/

namespace PlayerPage

/-- What a page tells of its track. -/
structure TrackFacts where
  title : Option String
  author : Option String
  isStream : Bool
  /-- The length in seconds. -/
  length : Option Int

namespace TrackFacts

/-- The facts in the arguments of the player, or the reason why the video cannot be played. -/
def ofArguments (arguments : Value) : Except (Option String) TrackFacts :=
  if (arguments.member "status").text? == some "fail" then
    .error (arguments.member "reason").text?
  else
    .ok ⟨(arguments.member "title").text?, (arguments.member "author").text?,
      (arguments.member "live_playback").text? == some "1",
      (arguments.member "length_seconds").toInt?⟩

/-- Whether the response says that the video cannot be played. -/
def isError (playability : Members) : Bool :=
  match (Value.object playability).member "status" with
  | .str status => status == "ERROR"
  | _ => false

/-- Whether a member of the details says so; it takes a truth value. -/
def isLive (details : Members) : Bool :=
  match Members.get details "isLiveContent" with
  | .bool live => live
  | _ => false

/-- The facts in the response of the player, or the reason why the video cannot be played. -/
def ofResponse (response : Value) : Except (Option String) TrackFacts :=
  let playability := response.objectAt "playabilityStatus"
  if isError playability then .error ((Value.object playability).member "reason").text?
  else
    let details := response.objectAt "videoDetails"
    .ok ⟨(Members.get details "title").text?, (Members.get details "author").text?,
      isLive details, (Members.get details "lengthSeconds").toInt?⟩

end TrackFacts

namespace Extractor

/-- The beginning of the address of a track, unless the caller sets another one. -/
def defaultBaseUrl : String := "https://www.youtube.com/watch?v="

/-- The length in milliseconds. Only a live stream may lack one. -/
def trackLength (e : Extractor) (videoId : Value) (facts : TrackFacts) : Except Failure Int :=
  if facts.isStream then .ok TrackMetadata.unknownLength
  else
    match facts.length with
    | none =>
      .error (.extractor "Unable to extract track length" (.value .null) videoId e.nameValue)
    | some seconds => .ok (seconds * 1000)

/-- The address of the track. -/
def trackUri (e : Extractor) (videoId : Value) : Except Failure Value :=
  ((e.setting "base_url" (.str defaultBaseUrl)).plus videoId).mapError .fault

/-- The metadata that the facts of a track amount to. -/
def track (e : Extractor) (videoId : Value) (facts : TrackFacts) :
    Except Failure TrackMetadata := do
  let length ← e.trackLength videoId facts
  let uri ← e.trackUri videoId
  pure ⟨facts.title, facts.author, length, videoId, facts.isStream, uri⟩

/-- What is said about a response of the player that is no JSON document. -/
def responseNote : Value := .str "Unable to parse player response"

/-- The response of the player, which may still be a JSON document. -/
def playerResponse (e : Extractor) (response videoId : Value) : Except Failure Value :=
  match response with
  | .object ms => .ok (.object ms)
  | v => e.parseJson v videoId responseNote

/-- The facts of a page with these arguments of the player. -/
def trackFacts (e : Extractor) (videoId arguments : Value) :
    Except Failure (Except (Option String) TrackFacts) :=
  match arguments.member "player_response" with
  | .null => .ok (TrackFacts.ofArguments arguments)
  | response => (e.playerResponse response videoId).map TrackFacts.ofResponse

/-- The metadata of a page; nothing of no page at all. -/
def trackOfPage (e : Extractor) (videoId page : Value) :
    Except Failure (Option TrackMetadata) :=
  if page.isNull then .ok none
  else do
    match ← e.trackFacts videoId (.object (page.objectAt "args")) with
    | .error reason => .error (.unplayable (.ofOption reason) videoId)
    | .ok facts => some <$> e.track videoId facts

end Extractor

end PlayerPage
