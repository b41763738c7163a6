import PlayerPage.Extractor.Document
import PlayerPage.Format.Source
import PlayerPage.Json.Printer
import PlayerPage.Manifest
import PlayerPage.Resolver
import PlayerPage.Track.Metadata
import PlayerPage.Value.Edit

/-!
The page of one video: what its player was configured with.

* `Page`: the configuration of the player, which holds its arguments and its script.
* `Page.script`, `Page.track`: the address of the player's script, and the metadata of the track.
* `Page.load`: the formats of one field of the arguments.
* `Page.formats`: the formats of the first field that yields any.
-/

namespace PlayerPage

/-- The page of a video, as an extractor sees it. -/
structure Page where
  extractor : Extractor
  videoId : Value
  info : Value

/-- The collaborators that fetch what a page refers to. -/
structure Access where
  handler : Option Http.Handler
  resolver : Resolver

namespace Page

/-- The name of the extractor of pages. -/
def extractorName : String := "youtube"

/-- The page of a video, for a caller with these settings. -/
def ofInfo (videoId info : Value) (settings : Settings) : Page :=
  ⟨.ofSettings (some extractorName) settings, videoId, info⟩

/-- The address of the player's script; null without one. -/
def script (p : Page) : Value :=
  p.info.find [[.member "assets", .member "js"]] (some .str) .null

/-- The arguments of the player. -/
def arguments (p : Page) : Value :=
  .object (p.info.objectAt "args")

/-- The metadata of the track; none of a page without a configuration. -/
def track (p : Page) : Except Failure (Option TrackMetadata) :=
  p.extractor.trackOfPage p.videoId p.info

/-! ### Formats -/

/-- The formats of a listing, after its reports. -/
def ofListing (p : Page) (listing : Listing) : Run (List Format) :=
  listing.deliver (some p.extractor) p.videoId

/-- The formats of the response of the player, in two lists. -/
def ofResponse (p : Page) (response : Value) : Run (List Format) := do
  let response ← Run.ofExcept (p.extractor.playerResponse response p.videoId)
  let data := response.objectAt "streamingData"
  let formats ← p.ofListing (Listing.ofStreaming (Members.get data "formats"))
  let adaptive ← p.ofListing (Listing.ofStreaming (Members.get data "adaptiveFormats"))
  pure (formats ++ adaptive)

/-- The address that the resolver finds for the address of a manifest. -/
def resolve (p : Page) (resolver : Resolver) (url : Value) : Run Value := do
  modify fun s => { s with lookups := s.lookups ++ [(p.script, url)] }
  Run.ofExcept (resolver.resolve p.script url)

/-- The formats of the manifest at an address. -/
def ofManifest (p : Page) (access : Access) (url : Value) : Run (List Format) := do
  let url ← p.resolve access.resolver url
  let document ← p.extractor.downloadXml access.handler url p.videoId
    (.str "Downloading DASH manifest") (.str "Failed to download DASH manifest")
  readManifest (some p.extractor) document p.videoId

/-- The formats of what a field of the arguments holds. -/
def load (p : Page) (access : Access) (source : FormatSource) (v : Value) : Run (List Format) :=
  match source with
  | .adaptive => p.ofListing (Listing.ofFlat v)
  | .playerResponse => p.ofResponse v
  | .manifest => p.ofManifest access v
  | .streamMap => p.ofListing (Listing.ofStreamMap v)

/-- The formats of what a field holds that is given by name; there may be no such field. -/
def loadNamed (p : Page) (access : Access) (source v : Value) : Run (List Format) :=
  match source.str?.bind FormatSource.ofName? with
  | some source => p.load access source v
  | none => throw (.fault (.unknownSource source))

/-- No field is left that could yield formats. -/
def unrecognized {α : Type} (p : Page) : Run α := do
  p.extractor.tell p.videoId
    (.warning ("No detected format field, arguments are: " ++ Json.render p.arguments))
  throw (.unrecognized p.arguments p.videoId p.extractor.nameValue)

/-- The formats of the first of some fields that yields any. -/
def firstOf (p : Page) (access : Access) : List (FormatSource × Value) → Run (List Format)
  | [] => p.unrecognized
  | (source, v) :: rest => do
    let formats ← p.load access source v
    if !formats.isEmpty then pure formats
    else do
      p.extractor.tell p.videoId (.debug ("No formats found in " ++ source.name))
      p.firstOf access rest

/-- The formats of the first field of the arguments that yields any. -/
def formats (p : Page) (access : Access) : Run (List Format) :=
  p.firstOf access (FormatSource.present p.arguments)

/-! ### Changes -/

/-- The page with a change inside its configuration. -/
def assign (p : Page) (path : List Value) (v : Value) : Except Fault Page := do
  let info ← p.info.assign path v
  pure { p with info }

/-- The page with something taken out of its configuration. -/
def remove (p : Page) (path : List Value) : Except Fault Page := do
  let info ← p.info.remove path
  pure { p with info }

/-- The page for a caller who set something anew. -/
def set (p : Page) (name : String) (setting : Setting) : Page :=
  { p with extractor := p.extractor.set name setting }

end Page

end PlayerPage
