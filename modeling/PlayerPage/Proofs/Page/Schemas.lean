import PlayerPage.Proofs.Page.Decoded

/-!
The metadata of a track in two schemas: the arguments of the player, and the response of the player
among them.

* `Page.Responds`: what stands for a response of the player: the object, or a text that denotes it.
* `Page.TellsAlike`: arguments and a response with the same title, author, length and liveness;
  `Page.RefusesAlike`: arguments and a response that refuse the video for the same reason.
* `Page.ofArguments_eq_ofResponse`: the facts are the same in both schemas.
* `Page.track_of_schemas`: so is the metadata, and the error if there is one.
-/

namespace PlayerPage

/-! ### Members -/

namespace Value

variable {ms : Members} {name : String}

/-- The text of a member, which is no empty object. -/
lemma text?_member (h : Members.get ms name ≠ .object []) :
    ((Value.object ms).member name).text? = (Members.get ms name).text? := by
  rw [member_object]
  split_ifs with hv
  · cases hg : Members.get ms name with
    | null => rfl
    | object xs =>
      rw [hg] at h hv
      obtain rfl : xs = [] := by simpa [isVoid] using hv
      exact absurd rfl h
    | bool | int | float | str | bytes | list | tuple =>
      rw [hg] at hv
      cases hv
  · rfl

/-- The integer of a member. The empty object is none, and neither is null. -/
lemma toInt?_member (ms : Members) (name : String) :
    ((Value.object ms).member name).toInt? = (Members.get ms name).toInt? := by
  rw [member_object]
  split_ifs with hv
  · cases hg : Members.get ms name with
    | null | object => rfl
    | bool | int | float | str | bytes | list | tuple =>
      rw [hg] at hv
      cases hv
  · rfl

lemma objectAt_of_get {playability : Members} (h : Members.get ms name = .object playability) :
    (Value.object ms).objectAt name = playability := by
  rw [objectAt_object, h]
  rfl

end Value

namespace Page

/-! ### Agreement of the schemas -/

/-- The ways to give a response of the player: as an object, and as a text that denotes it. -/
inductive Responds (response : Members) : Value → Prop
  | object : Responds response (.object response)
  | text {s : String} (h : Json.parse s = .ok (.object response)) : Responds response (.str s)

/-- Arguments of the player that tell the same as the details in a response, where neither says that
the video cannot be played. The title and the author may be anything but the empty object. -/
structure TellsAlike (arguments response details : Members) : Prop where
  videoDetails : Members.get response "videoDetails" = .object details
  title : Members.get arguments "title" = Members.get details "title"
  title_ne : Members.get details "title" ≠ .object []
  author : Members.get arguments "author" = Members.get details "author"
  author_ne : Members.get details "author" ≠ .object []
  length : Members.get arguments "length_seconds" = Members.get details "lengthSeconds"
  live : Members.get arguments "live_playback" = .str "1" ∧
      Members.get details "isLiveContent" = .bool true ∨
    (Members.get arguments "live_playback" = .null ∨
      Members.get arguments "live_playback" = .str "0") ∧
      (Members.get details "isLiveContent" = .null ∨
        Members.get details "isLiveContent" = .bool false)
  status : (Members.get arguments "status").text? ≠ some "fail"
  playable : ∀ playability, Members.get response "playabilityStatus" = .object playability →
    Members.get playability "status" ≠ .str "ERROR"

/-- Arguments and a response of the player that both say that the video cannot be played, and give
the same reason, whatever else they hold. -/
structure RefusesAlike (arguments response : Members) (reason : Value) : Prop where
  status : Members.get arguments "status" = .str "fail"
  reason_eq : Members.get arguments "reason" = reason
  playability : ∃ playability, Members.get response "playabilityStatus" = .object playability ∧
    Members.get playability "status" = .str "ERROR" ∧ Members.get playability "reason" = reason

/-- The text of a reason, of which null and the empty object are none. -/
def reasonText (reason : Value) : Option String :=
  if reason.isVoid then none else reason.text?

lemma text?_reason (ms : Members) :
    ((Value.object ms).member "reason").text? = reasonText (Members.get ms "reason") := by
  rw [Value.member_object, reasonText]
  split_ifs <;> rfl

/-! ### The facts -/

section Facts

variable {arguments response details : Members} {reason : Value}

lemma isError_iff {playability : Members} :
    TrackFacts.isError playability = true ↔ Members.get playability "status" = .str "ERROR" := by
  rw [TrackFacts.isError, Value.member_object]
  cases Members.get playability "status" with
  | object ms => cases ms <;> simp [Value.isVoid]
  | str status => simp [Value.isVoid]
  | null | bool | int | float | bytes | list | tuple => simp [Value.isVoid]

lemma objectAt_playable (h : ∀ playability,
      Members.get response "playabilityStatus" = .object playability →
        Members.get playability "status" ≠ .str "ERROR") :
    TrackFacts.isError ((Value.object response).objectAt "playabilityStatus") = false := by
  rw [Value.objectAt_object]
  cases hp : Members.get response "playabilityStatus" with
  | object playability => exact Bool.eq_false_iff.mpr fun he => h playability hp (isError_iff.mp he)
  | null | bool | int | float | str | bytes | list | tuple => rfl

/-- Both schemas tell the same facts. -/
lemma TellsAlike.facts_eq (h : TellsAlike arguments response details) :
    TrackFacts.ofArguments (.object arguments) = TrackFacts.ofResponse (.object response) := by
  have hstatus : ((Value.object arguments).member "status").text? ≠ some "fail" := by
    rw [Value.member_object]
    split_ifs
    · simp [Value.text?]
    · exact h.status
  have htitle : ((Value.object arguments).member "title").text? =
      (Members.get details "title").text? := by
    rw [Value.text?_member (h.title ▸ h.title_ne), h.title]
  have hauthor : ((Value.object arguments).member "author").text? =
      (Members.get details "author").text? := by
    rw [Value.text?_member (h.author ▸ h.author_ne), h.author]
  have hlength : ((Value.object arguments).member "length_seconds").toInt? =
      (Members.get details "lengthSeconds").toInt? := by
    rw [Value.toInt?_member, h.length]
  have hlive : (((Value.object arguments).member "live_playback").text? == some "1") =
      TrackFacts.isLive details := by
    rw [Value.member_object, TrackFacts.isLive]
    obtain ⟨hl, hd⟩ | ⟨hl | hl, hd | hd⟩ := h.live <;> rw [hl, hd] <;> rfl
  rw [TrackFacts.ofArguments, TrackFacts.ofResponse, objectAt_playable h.playable,
    Value.objectAt_of_get h.videoDetails, htitle, hauthor, hlength, hlive]
  rw [if_neg (by simpa using hstatus)]
  rfl

/-- Both schemas refuse the video for the same reason. -/
lemma RefusesAlike.facts_eq (h : RefusesAlike arguments response reason) :
    TrackFacts.ofArguments (.object arguments) = .error (reasonText reason) ∧
      TrackFacts.ofResponse (.object response) = .error (reasonText reason) := by
  obtain ⟨playability, hp, hs, hr⟩ := h.playability
  constructor
  · have hstatus : ((Value.object arguments).member "status").text? = some "fail" := by
      rw [Value.member_object, h.status]
      rfl
    rw [TrackFacts.ofArguments, hstatus, text?_reason, h.reason_eq]
    rfl
  · have herror : TrackFacts.isError playability = true := isError_iff.mpr hs
    rw [TrackFacts.ofResponse, Value.objectAt_of_get hp, herror, text?_reason, hr]
    rfl

end Facts

/-! ### The metadata -/

variable {arguments response details : Members} {v reason : Value}

/-- A response that has a member says all there is to say of the track, as text or as object. -/
lemma Responds.track_eq (hv : Responds response v) (hne : response ≠ []) (p : Page) :
    (p.withResponse v).track = p.conclude (TrackFacts.ofResponse (.object response)) := by
  cases hv with
  | object => exact p.track_withResponse_object hne
  | text h => exact p.track_withResponse_str h

/-- Without a response the arguments say it. -/
lemma track_of_arguments (p : Page) (h : (Members.get arguments "player_response").isVoid) :
    (p.withArguments arguments).track =
      p.conclude (TrackFacts.ofArguments (.object arguments)) := by
  rw [track_withArguments, if_pos h]

lemma ne_nil_of_get {name : String} {ms : Members}
    (h : Members.get response name = .object ms) : response ≠ [] := by
  rintro rfl
  cases h

/-- **Two schemas, one track.** Arguments of the player without a response, and a response, given as
an object or as a JSON text, that tells the same, amount to the same metadata, or to the same error.
If both say that the video cannot be played, then for the same reason it is refused with the same
error, whatever else they hold. -/
theorem track_of_schemas (p : Page)
    (ha : (Members.get arguments "player_response").isVoid) (hv : Responds response v) :
    (∀ details, TellsAlike arguments response details →
      (p.withArguments arguments).track = (p.withResponse v).track) ∧
    (∀ reason, RefusesAlike arguments response reason →
      (p.withArguments arguments).track =
          .error (.unplayable (.ofOption (reasonText reason)) p.videoId) ∧
        (p.withResponse v).track =
          .error (.unplayable (.ofOption (reasonText reason)) p.videoId)) := by
  rw [p.track_of_arguments ha]
  refine ⟨fun details h => ?_, fun reason h => ?_⟩
  · rw [hv.track_eq (ne_nil_of_get h.videoDetails), h.facts_eq]
  · obtain ⟨playability, hp, -, -⟩ := h.playability
    obtain ⟨hlegacy, hcurrent⟩ := h.facts_eq
    rw [hv.track_eq (ne_nil_of_get hp), hlegacy, hcurrent]
    exact ⟨rfl, rfl⟩

/-- A live stream whose title is a number, and a refusal whose reason is a list, in both schemas. -/
theorem track_of_schemas_of_live :
    let page : Page := .ofInfo (.str "abc") (.object []) []
    let arguments : Members := [("title", .int 5), ("live_playback", .str "1")]
    let details : Members := [("title", .int 5), ("isLiveContent", .bool true)]
    let text := "\x7b\"videoDetails\": \x7b\"title\": 5, \"isLiveContent\": true\x7d\x7d"
    let refused : Members := [("status", .str "fail"), ("reason", .list [.int 1])]
    let playability : Members := [("status", .str "ERROR"), ("reason", .list [.int 1])]
    let refusal : Value := .object [("playabilityStatus", .object playability)]
    Json.parse text = .ok (.object [("videoDetails", .object details)]) ∧
      (page.withArguments arguments).track = (page.withResponse (.str text)).track ∧
      (page.withArguments arguments).track = .ok (some ⟨some "5", none,
        TrackMetadata.unknownLength, .str "abc", true,
        .str "https://www.youtube.com/watch?v=abc"⟩) ∧
      (page.withArguments refused).track = .error (.unplayable (.str "[1]") (.str "abc")) ∧
      (page.withResponse refusal).track = .error (.unplayable (.str "[1]") (.str "abc")) := by
  intro page arguments details text refused playability refusal
  have h : Json.parse text = .ok (.object [("videoDetails", .object details)]) := by
    rw [Json.parse, if_neg (by simp [text])]
    simp only [text, String.reduceToList]
    rfl
  have habsent : (Members.get arguments "player_response").isVoid := rfl
  have htells : TellsAlike arguments [("videoDetails", .object details)] details :=
    { videoDetails := rfl
      title := rfl
      title_ne := by rintro ⟨⟩
      author := rfl
      author_ne := by rintro ⟨⟩
      length := rfl
      live := .inl ⟨rfl, rfl⟩
      status := by rintro ⟨⟩
      playable := by rintro _ ⟨⟩ }
  have hrefuses : RefusesAlike refused [("playabilityStatus", .object playability)]
      (.list [.int 1]) := ⟨rfl, rfl, playability, rfl, rfl, rfl⟩
  have hnone : (Members.get refused "player_response").isVoid := rfl
  have hlive := (track_of_schemas page habsent (.text h)).1 details htells
  obtain ⟨hlegacy, hcurrent⟩ := (track_of_schemas page hnone .object).2 _ hrefuses
  exact ⟨h, hlive, rfl, hlegacy, hcurrent⟩

end Page

end PlayerPage
