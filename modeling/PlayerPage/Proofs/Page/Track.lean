import PlayerPage.Proofs.Json
import PlayerPage.Proofs.Page.Schemas

/-!
What becomes of the metadata of a page.

* `Page.track_cases`: a page is read by the arguments of the player, or by the response of the
  player, or its response is no document at all.
* `Page.Refuses`: where a page says that the video cannot be played, and for which reason;
  `Page.ofArguments_eq_error_iff`, `Page.ofResponse_eq_error_iff`: the two schemas see it there, and
  `Page.Refuses.track_eq`: it decides.
* `Page.track_outcome`: metadata, none, or an error of the extraction, and which of them.
* `Page.States`: where a page states the length of its track, and whether it is a live stream.
* `Page.length_unknown_iff_stream`: the length that no track has is left to live streams.
-/

namespace PlayerPage

/-! ### Settings -/

namespace Extractor

/-- What the caller set for the beginning of an address, if anything, is a text. -/
def HasTextBase (e : Extractor) : Prop :=
  ∀ setting, e.settings.lookup "base_url" = some setting → ∃ base, setting = .value (.str base)

lemma HasTextBase.trackUri_eq {e : Extractor} (h : e.HasTextBase) (id : String) :
    ∃ uri, e.trackUri (.str id) = .ok uri := by
  have hbase : ∃ base, e.setting "base_url" (.str defaultBaseUrl) = .str base := by
    rw [setting]
    cases hl : e.settings.lookup "base_url" with
    | none => exact ⟨_, rfl⟩
    | some setting =>
      obtain ⟨base, rfl⟩ := h setting hl
      exact ⟨base, rfl⟩
  obtain ⟨base, hbase⟩ := hbase
  rw [trackUri, hbase]
  exact ⟨_, rfl⟩

end Extractor

lemma Value.isNull_eq_false {v : Value} (h : v ≠ .null) : v.isNull = false := by
  cases v with
  | null => exact absurd rfl h
  | bool | int | float | str | bytes | list | tuple | object => rfl

/-- A member of the object in a member is there only if both are objects. -/
lemma Value.eq_of_get_objectAt {v : Value} {name key : String}
    (h : Members.get (v.objectAt name) key ≠ .null) :
    ∃ ms, v = .object ms ∧ Members.get ms name = .object (v.objectAt name) := by
  cases v with
  | object ms =>
    rw [objectAt_object] at h ⊢
    cases hg : Members.get ms name with
    | object inner => exact ⟨ms, rfl, hg⟩
    | null | bool | int | float | str | bytes | list | tuple =>
      rw [hg] at h
      exact absurd rfl h
  | null | bool | int | float | str | bytes | list | tuple => exact absurd rfl h

namespace Page

variable {p : Page} {id : String} {facts : TrackFacts} {reason : Option String}

/-! ### The ways to read a page -/

lemma argument_of_null (h : p.info = .null) (name : String) : p.argument name = .null := by
  rw [argument, h]
  rfl

/-- A page that is there is read by the arguments of the player, or by the response of the player,
or its response is no document at all. -/
lemma track_cases (h : p.info ≠ .null) :
    let response := p.argument "player_response"
    (response.isVoid = true ∧ p.track = p.conclude (TrackFacts.ofArguments p.arguments)) ∨
      (response.isVoid = false ∧ ∃ v, response.Denotes v ∧
        p.track = p.conclude (TrackFacts.ofResponse v)) ∨
      (response.isVoid = false ∧ (∀ v, ¬ response.Denotes v) ∧
        ∃ g, p.track = .error (p.extractor.misread p.videoId Extractor.responseNote g)) := by
  intro response
  rw [track_eq (Value.isNull_eq_false h)]
  cases hv : response.isVoid with
  | true => exact .inl ⟨rfl, if_pos rfl⟩
  | false =>
    rw [if_neg (by simp)]
    cases hr : p.extractor.playerResponse response p.videoId with
    | ok v => exact .inr (.inl ⟨rfl, v, Extractor.playerResponse_eq_ok_iff.mp hr, rfl⟩)
    | error f =>
      obtain ⟨g, rfl⟩ := Extractor.playerResponse_error hr
      refine .inr (.inr ⟨rfl, fun v hd => ?_, g, rfl⟩)
      rw [Extractor.playerResponse_eq_ok_iff.mpr hd] at hr
      cases hr

/-- The metadata of facts lacks nothing but, perhaps, the length. -/
lemma conclude_ok_cases (hid : p.videoId = .str id) (hb : p.extractor.HasTextBase)
    (facts : TrackFacts) :
    (∃ m, p.conclude (.ok facts) = .ok (some m)) ∨
      p.conclude (.ok facts) = .error (.extractor "Unable to extract track length" (.value .null)
        p.videoId p.extractor.nameValue) := by
  obtain ⟨uri, huri⟩ := hb.trackUri_eq id
  rw [conclude, Extractor.track, Extractor.trackLength, hid, huri]
  split_ifs with hs
  · exact .inl ⟨_, rfl⟩
  · cases facts.length with
    | none => exact .inr rfl
    | some seconds => exact .inl ⟨_, rfl⟩

/-! ### Refusals -/

section Refusals

variable {arguments : Members} {v : Value}

/-- A text that shows no object is that of a member only if it is that of the value in it. -/
lemma text?_member_eq_some {name s : String} (hs : s ≠ "\x7b\x7d") :
    ((Value.object arguments).member name).text? = some s ↔
      (Members.get arguments name).text? = some s := by
  by_cases he : Members.get arguments name = .object []
  · have hshown : (Members.get arguments name).text? = some "\x7b\x7d" := by
      rw [he]
      rfl
    have hmember : ((Value.object arguments).member name).text? = none := by
      rw [Value.member_object, he]
      rfl
    rw [hshown, hmember]
    simpa using hs.symm
  · rw [Value.text?_member he]

/-- The arguments of the player refuse the video by their status. -/
lemma ofArguments_eq_error_iff :
    TrackFacts.ofArguments (.object arguments) = .error reason ↔
      (Members.get arguments "status").text? = some "fail" ∧
        reason = reasonText (Members.get arguments "reason") := by
  have hstatus : ((Value.object arguments).member "status").text? = some "fail" ↔
      (Members.get arguments "status").text? = some "fail" := text?_member_eq_some (by decide)
  rw [TrackFacts.ofArguments, text?_reason]
  by_cases h : (Members.get arguments "status").text? = some "fail"
  · rw [if_pos (by simpa using hstatus.mpr h)]
    simp [h, eq_comm]
  · rw [if_neg (by simpa using fun hs => h (hstatus.mp hs))]
    simp [h]

/-- The response of the player refuses the video by the status of an object in it. -/
lemma ofResponse_eq_error_iff :
    TrackFacts.ofResponse v = .error reason ↔
      ∃ response playability, v = .object response ∧
        Members.get response "playabilityStatus" = .object playability ∧
        Members.get playability "status" = .str "ERROR" ∧
        reason = reasonText (Members.get playability "reason") := by
  have hfacts : TrackFacts.ofResponse v = .error reason ↔
      Members.get (v.objectAt "playabilityStatus") "status" = .str "ERROR" ∧
        reason = reasonText (Members.get (v.objectAt "playabilityStatus") "reason") := by
    rw [TrackFacts.ofResponse, text?_reason, ← isError_iff]
    cases TrackFacts.isError (v.objectAt "playabilityStatus") <;> simp [eq_comm]
  rw [hfacts]
  constructor
  · rintro ⟨hs, hr⟩
    have hne : Members.get (v.objectAt "playabilityStatus") "status" ≠ .null := by simp [hs]
    obtain ⟨response, rfl, hp⟩ := Value.eq_of_get_objectAt hne
    exact ⟨response, _, rfl, hp, hs, hr⟩
  · rintro ⟨response, playability, rfl, hp, hs, hr⟩
    rw [Value.objectAt_of_get hp]
    exact ⟨hs, hr⟩

/-- Where a page says that the video cannot be played, and what it gives as the reason: among the
arguments of the player, if there is no response of the player among them, and otherwise in the
response. -/
inductive Refuses (p : Page) : (reason : Value) → Prop
  | arguments (hmissing : (p.argument "player_response").isVoid = true)
      (hstatus : (p.argument "status").text? = some "fail") : Refuses p (p.argument "reason")
  | response {response playability : Members}
      (hpresent : (p.argument "player_response").isVoid = false)
      (hdenotes : (p.argument "player_response").Denotes (.object response))
      (hplayability : Members.get response "playabilityStatus" = .object playability)
      (hstatus : Members.get playability "status" = .str "ERROR") :
      Refuses p (Members.get playability "reason")

/-- A page that refuses the video is the error that it cannot be played. -/
lemma Refuses.track_eq {reason : Value} (h : p.Refuses reason) :
    p.track = .error (.unplayable (.ofOption (reasonText reason)) p.videoId) := by
  have hinfo : p.info ≠ .null := by
    intro hi
    cases h with
    | arguments _ hstatus => simp [argument_of_null hi, Value.text?] at hstatus
    | response hpresent => simp [argument_of_null hi, Value.isVoid] at hpresent
  cases h with
  | arguments hmissing hstatus =>
    rcases track_cases hinfo with ⟨-, ht⟩ | ⟨hp, -⟩ | ⟨hp, -⟩
    · rw [ht, Page.arguments, ofArguments_eq_error_iff.mpr ⟨hstatus, rfl⟩]
      rfl
    · simp [hmissing] at hp
    · simp [hmissing] at hp
  | @response response playability hpresent hdenotes hplayability hstatus =>
    have hr := ofResponse_eq_error_iff.mpr
      ⟨response, playability, rfl, hplayability, hstatus, rfl⟩
    rcases track_cases hinfo with ⟨hm, -⟩ | ⟨-, v, hv, ht⟩ | ⟨-, hnone, -⟩
    · simp [hpresent] at hm
    · rw [ht, hv.unique hdenotes, hr]
      rfl
    · exact absurd hdenotes (hnone _)

end Refusals

/-! ### Outcomes -/

/-- A page that is there gives metadata, or is an error of the extraction, unless it refuses the
video. -/
lemma outcome_cases (hid : p.videoId = .str id) (hb : p.extractor.HasTextBase)
    (hinfo : p.info ≠ .null) :
    (∃ m, p.track = .ok (some m)) ∨
      (∃ f, p.track = .error f ∧ f.className = "ExtractorError" ∧ f.isExtraction = true) ∨
      ∃ reason, p.Refuses reason := by
  have hconclude (facts : TrackFacts) (ht : p.track = p.conclude (.ok facts)) :
      (∃ m, p.track = .ok (some m)) ∨
        ∃ f, p.track = .error f ∧ f.className = "ExtractorError" ∧ f.isExtraction = true := by
    rcases conclude_ok_cases hid hb facts with ⟨m, hm⟩ | he
    · exact .inl ⟨m, ht.trans hm⟩
    · exact .inr ⟨_, ht.trans he, rfl, rfl⟩
  rcases track_cases hinfo with ⟨hm, ht⟩ | ⟨hp, v, hv, ht⟩ | ⟨-, -, g, ht⟩
  · cases hfacts : TrackFacts.ofArguments p.arguments with
    | ok facts =>
      rw [hfacts] at ht
      exact (hconclude facts ht).imp_right .inl
    | error reason =>
      obtain ⟨hs, -⟩ := ofArguments_eq_error_iff.mp hfacts
      exact .inr (.inr ⟨_, .arguments hm hs⟩)
  · cases hfacts : TrackFacts.ofResponse v with
    | ok facts =>
      rw [hfacts] at ht
      exact (hconclude facts ht).imp_right .inl
    | error reason =>
      obtain ⟨response, playability, rfl, hplayability, hs, -⟩ := ofResponse_eq_error_iff.mp hfacts
      exact .inr (.inr ⟨_, .response hp hv hplayability hs⟩)
  · exact .inr (.inl ⟨_, ht, rfl, rfl⟩)

/-- With a response of the player nothing else on the page matters. -/
lemma track_congr_response {info : Value} (hp : (p.argument "player_response").isVoid = false)
    (he : ({ p with info } : Page).argument "player_response" = p.argument "player_response") :
    ({ p with info } : Page).track = p.track := by
  have hread (q : Page) (hq : (q.argument "player_response").isVoid = false) :
      q.track = q.extractor.playerResponse (q.argument "player_response") q.videoId >>=
        fun response => q.conclude (TrackFacts.ofResponse response) := by
    have hinfo : q.info ≠ .null := fun hi => by simp [argument_of_null hi, Value.isVoid] at hq
    rw [track_eq (Value.isNull_eq_false hinfo), if_neg (by simp [hq])]
  rw [hread _ (he ▸ hp), hread p hp, he]
  rfl

/-- **What becomes of the metadata** of a page, for a video that is named by a text and a caller who
sets no other beginning of addresses than a text. There is none only of a page that is not there; of
any other page there is metadata, or an error of the extraction. The error that the video cannot be
played comes exactly where the page says so, and its text is the reason that the page gives for it,
if that is a text and not empty. With a response of the player the rest of the page does not
matter. -/
theorem track_outcome (hid : p.videoId = .str id) (hb : p.extractor.HasTextBase) :
    (p.track = .ok none ↔ p.info = .null) ∧
      (p.info ≠ .null →
        (∃ m, p.track = .ok (some m)) ∨ ∃ f, p.track = .error f ∧ f.isExtraction = true) ∧
      ((∃ f, p.track = .error f ∧ f.className = "UnplayableVideoError") ↔
        ∃ reason, p.Refuses reason) ∧
      (∀ text, text ≠ "" → p.Refuses (.str text) → ∃ f, p.track = .error f ∧ f.message = text ∧
        f = .extraction (.unplayable (.str text)) .common text (.value .null) p.videoId .null) ∧
      ∀ info, (p.argument "player_response").isVoid = false →
        ({ p with info } : Page).argument "player_response" = p.argument "player_response" →
        ({ p with info } : Page).track = p.track := by
  have hnull (hi : p.info = .null) : p.track = .ok none := by
    rw [track, Extractor.trackOfPage, hi]
    rfl
  refine ⟨⟨fun ht => ?_, hnull⟩, fun hinfo => ?_, ⟨?_, ?_⟩, fun text hne h => ?_,
    fun info hp he => track_congr_response hp he⟩
  · by_contra hinfo
    rcases outcome_cases hid hb hinfo with ⟨m, hm⟩ | ⟨f, hf, -⟩ | ⟨reason, hr⟩
    · cases ht.symm.trans hm
    · cases ht.symm.trans hf
    · cases ht.symm.trans hr.track_eq
  · rcases outcome_cases hid hb hinfo with hm | ⟨f, hf, -, he⟩ | ⟨reason, hr⟩
    · exact .inl hm
    · exact .inr ⟨f, hf, he⟩
    · exact .inr ⟨_, hr.track_eq, rfl⟩
  · rintro ⟨f, hf, hc⟩
    have hinfo : p.info ≠ .null := fun hi => by cases (hnull hi).symm.trans hf
    rcases outcome_cases hid hb hinfo with ⟨m, hm⟩ | ⟨f', hf', hc', -⟩ | hr
    · cases hf.symm.trans hm
    · cases hf.symm.trans hf'
      rw [hc] at hc'
      exact absurd hc' (by decide)
    · exact hr
  · rintro ⟨reason, hr⟩
    exact ⟨_, hr.track_eq, rfl⟩
  · have hreason : (Value.str text).orElse (.str "This video is unavailable") = .str text :=
      if_pos (by simpa [Value.holds] using hne)
    have hf : Failure.unplayable (.str text) p.videoId =
        .extraction (.unplayable (.str text)) .common text (.value .null) p.videoId .null := by
      rw [Failure.unplayable, hreason]
      rfl
    refine ⟨_, h.track_eq, ?_, hf⟩
    show (Failure.unplayable (.str text) p.videoId).message = text
    rw [hf, Failure.message]

/-- A response that refuses the video does so whatever the rest of the arguments tells, and whatever
else the page holds. -/
theorem track_outcome_of_refusal :
    let text :=
      "\x7b\"playabilityStatus\": \x7b\"status\": \"ERROR\", \"reason\": \"Gone.\"\x7d\x7d"
    let arguments : Members := [("status", .str "ok"), ("length_seconds", .int 5),
      ("player_response", .str text)]
    let page : Page := .ofInfo (.str "abc") (.object [("args", .object arguments)])
      [("base_url", .value (.str "http://x/"))]
    page.videoId = .str "abc" ∧ page.extractor.HasTextBase ∧ page.Refuses (.str "Gone.") ∧
      (∃ f, page.track = .error f ∧ f.className = "UnplayableVideoError") ∧
      (∃ f, page.track = .error f ∧ f.message = "Gone.") ∧
      ({ page with
          info := .object [("args", .object [("player_response", .str text)])] } : Page).track =
        page.track := by
  intro text arguments page
  have hid : page.videoId = .str "abc" := rfl
  have hb : page.extractor.HasTextBase := by
    rintro setting ⟨⟩
    exact ⟨_, rfl⟩
  have hload : Json.load (page.argument "player_response") = .ok (.object [("playabilityStatus",
      .object [("status", .str "ERROR"), ("reason", .str "Gone.")])]) := by
    show Json.parse text = _
    rw [Json.parse, if_neg (by simp [text])]
    simp only [text, String.reduceToList]
    rfl
  have hrefuses : page.Refuses (.str "Gone.") := .response rfl (.document hload) rfl rfl
  obtain ⟨-, -, hrefused, hreason, hframe⟩ := track_outcome hid hb
  obtain ⟨f, hf, hm, -⟩ := hreason "Gone." (by decide) hrefuses
  exact ⟨hid, hb, hrefuses, hrefused.mpr ⟨_, hrefuses⟩, ⟨f, hf, hm⟩, hframe _ rfl rfl⟩

/-! ### Lengths -/

/-- Where a page states whether its track is a live stream, and how long it is: among the arguments
of the player, if there is no response of the player among them, and otherwise in the response. -/
inductive States (p : Page) : (live : Bool) → (length : Value) → Prop
  | arguments {live : Bool} (hmissing : (p.argument "player_response").isVoid = true)
      (hlive : live = true ↔ (p.argument "live_playback").text? = some "1") :
      States p live (p.argument "length_seconds")
  | response {v : Value} {live : Bool} (hpresent : (p.argument "player_response").isVoid = false)
      (hdenotes : (p.argument "player_response").Denotes v)
      (hlive : live = true ↔ Members.get (v.objectAt "videoDetails") "isLiveContent" = .bool true) :
      States p live (Members.get (v.objectAt "videoDetails") "lengthSeconds")

section Lengths

variable {arguments : Members} {v : Value} {m : TrackMetadata}

lemma ofArguments_eq_ok (h : TrackFacts.ofArguments (.object arguments) = .ok facts) :
    (facts.isStream = true ↔ (Members.get arguments "live_playback").text? = some "1") ∧
      facts.length = (Members.get arguments "length_seconds").toInt? := by
  have hlive : ((Value.object arguments).member "live_playback").text? = some "1" ↔
      (Members.get arguments "live_playback").text? = some "1" := text?_member_eq_some (by decide)
  rw [TrackFacts.ofArguments] at h
  split_ifs at h
  cases h
  exact ⟨by simpa using hlive, Value.toInt?_member _ _⟩

lemma isLive_iff {details : Members} :
    TrackFacts.isLive details = true ↔ Members.get details "isLiveContent" = .bool true := by
  rw [TrackFacts.isLive]
  cases Members.get details "isLiveContent" <;> simp

lemma ofResponse_eq_ok (h : TrackFacts.ofResponse v = .ok facts) :
    (facts.isStream = true ↔
        Members.get (v.objectAt "videoDetails") "isLiveContent" = .bool true) ∧
      facts.length = (Members.get (v.objectAt "videoDetails") "lengthSeconds").toInt? := by
  rw [TrackFacts.ofResponse] at h
  split_ifs at h
  cases h
  exact ⟨isLive_iff, rfl⟩

/-- Metadata comes of what the page states. -/
lemma exists_states (h : p.track = .ok (some m)) :
    ∃ facts length, p.conclude (.ok facts) = .ok (some m) ∧ p.States facts.isStream length ∧
      facts.length = length.toInt? := by
  have hinfo : p.info ≠ .null := by
    intro hi
    rw [track, Extractor.trackOfPage, hi] at h
    cases h
  rcases track_cases hinfo with ⟨hm, ht⟩ | ⟨hp, v, hv, ht⟩ | ⟨-, -, g, ht⟩
  · cases hfacts : TrackFacts.ofArguments p.arguments with
    | ok facts =>
      obtain ⟨hlive, hlength⟩ := ofArguments_eq_ok hfacts
      rw [h, hfacts] at ht
      exact ⟨facts, _, ht.symm, .arguments hm hlive, hlength⟩
    | error reason =>
      rw [hfacts] at ht
      cases h.symm.trans ht
  · cases hfacts : TrackFacts.ofResponse v with
    | ok facts =>
      obtain ⟨hlive, hlength⟩ := ofResponse_eq_ok hfacts
      rw [h, hfacts] at ht
      exact ⟨facts, _, ht.symm, .response hp hv hlive, hlength⟩
    | error reason =>
      rw [hfacts] at ht
      cases h.symm.trans ht
  · cases h.symm.trans ht

/-- The metadata of facts, and what it takes. -/
lemma conclude_eq_ok (h : p.conclude (.ok facts) = .ok (some m)) :
    p.extractor.trackLength p.videoId facts = .ok m.length ∧
      p.extractor.trackUri p.videoId = .ok m.uri ∧ m.identifier = p.videoId ∧
      m.isStream = facts.isStream := by
  rw [conclude, Extractor.track] at h
  cases hl : p.extractor.trackLength p.videoId facts with
  | error f =>
    rw [hl] at h
    cases h
  | ok length =>
    cases hu : p.extractor.trackUri p.videoId with
    | error f =>
      rw [hl, hu] at h
      cases h
    | ok uri =>
      rw [hl, hu] at h
      cases h
      exact ⟨rfl, rfl, rfl, rfl⟩

/-- No whole number of seconds amounts to the length that is not known. -/
lemma scaled_ne_unknownLength (seconds : Int) : 1000 * seconds ≠ TrackMetadata.unknownLength := by
  rw [TrackMetadata.unknownLength]
  omega

lemma trackLength_eq_ok {e : Extractor} {videoId : Value} {length : Int}
    (h : e.trackLength videoId facts = .ok length) :
    if facts.isStream then length = TrackMetadata.unknownLength
    else ∃ seconds, facts.length = some seconds ∧ length = 1000 * seconds := by
  rw [Extractor.trackLength] at h
  split_ifs at h with hs
  · rw [if_pos hs]
    exact (Except.ok.inj h).symm
  · rw [if_neg hs]
    cases hl : facts.length with
    | none =>
      rw [hl] at h
      cases h
    | some seconds =>
      rw [hl] at h
      cases h
      exact ⟨seconds, rfl, Int.mul_comm seconds 1000⟩

lemma trackUri_eq_ok {e : Extractor} {videoId uri : Value} (h : e.trackUri videoId = .ok uri) :
    (e.setting "base_url" (.str Extractor.defaultBaseUrl)).plus videoId = .ok uri := by
  rw [Extractor.trackUri] at h
  cases hs : (e.setting "base_url" (.str Extractor.defaultBaseUrl)).plus videoId with
  | error f =>
    rw [hs] at h
    cases h
  | ok w =>
    rw [hs] at h
    exact congrArg Except.ok (Except.ok.inj h)

/-- **Lengths that are not known.** The metadata of a page has an unknown length exactly if the
track is a live stream, which is as the page states it. Any other track has the length in
milliseconds that the page states in seconds, be it large or negative, and this is never the unknown
length. Who it is and where it is does not depend on the page. -/
theorem length_unknown_iff_stream (h : p.track = .ok (some m)) :
    (m.isLengthUnknown = true ↔ m.isStream = true) ∧
      (∃ length, p.States m.isStream length ∧
        (m.isStream = false → ∃ seconds, length.toInt? = some seconds ∧
          m.length = 1000 * seconds ∧ m.length ≠ TrackMetadata.unknownLength)) ∧
      m.identifier = p.videoId ∧
      (p.extractor.setting "base_url" (.str Extractor.defaultBaseUrl)).plus p.videoId = .ok m.uri ∧
      ∀ info m', ({ p with info } : Page).track = .ok (some m') →
        m'.identifier = m.identifier ∧ m'.uri = m.uri := by
  obtain ⟨facts, stated, hconclude, hstates, hseconds⟩ := exists_states h
  obtain ⟨hlength, huri, hid, hstream⟩ := conclude_eq_ok hconclude
  have hcases := trackLength_eq_ok hlength
  rw [← hstream] at hcases hstates
  refine ⟨?_, ⟨stated, hstates, fun hs => ?_⟩, hid, trackUri_eq_ok huri, fun info m' h' => ?_⟩
  · rw [TrackMetadata.isLengthUnknown, beq_iff_eq]
    cases hs : m.isStream with
    | true =>
      rw [hs, if_pos rfl] at hcases
      simp [hcases]
    | false =>
      rw [hs, if_neg (by simp)] at hcases
      obtain ⟨seconds, -, hm⟩ := hcases
      simp [hm, scaled_ne_unknownLength]
  · rw [hs, if_neg (by simp)] at hcases
    obtain ⟨seconds, hf, hm⟩ := hcases
    exact ⟨seconds, hseconds.symm.trans hf, hm, hm ▸ scaled_ne_unknownLength seconds⟩
  · obtain ⟨facts', -, hconclude', -⟩ := exists_states h'
    obtain ⟨-, huri', hid', -⟩ := conclude_eq_ok hconclude'
    exact ⟨hid'.trans hid.symm, Except.ok.inj (huri'.symm.trans huri)⟩

/-- The most seconds whose milliseconds are less than the unknown length, and a live stream on
another page of the same video. -/
theorem length_unknown_iff_stream_of_longest :
    let page (arguments : Members) : Page :=
      .ofInfo (.str "abc") (.object [("args", .object arguments)]) []
    let longest := page [("length_seconds", .str "9223372036854775")]
    let live := page [("length_seconds", .str "9223372036854775"), ("live_playback", .int 1)]
    let uri : Value := .str "https://www.youtube.com/watch?v=abc"
    let m : TrackMetadata := ⟨none, none, 9223372036854775000, .str "abc", false, uri⟩
    let m' : TrackMetadata := ⟨none, none, 9223372036854775807, .str "abc", true, uri⟩
    longest.track = .ok (some m) ∧ live.track = .ok (some m') ∧
      m.isLengthUnknown ≠ true ∧ m'.isLengthUnknown = true ∧ m'.uri = m.uri := by
  intro page longest live uri m m'
  have hlongest : longest.track = .ok (some m) := rfl
  have hlive : live.track = .ok (some m') := rfl
  obtain ⟨hunknown, -, -, -, hframe⟩ := length_unknown_iff_stream hlongest
  obtain ⟨hunknown', -⟩ := length_unknown_iff_stream hlive
  have hm : m.isLengthUnknown ≠ true := fun h => by cases hunknown.mp h
  exact ⟨hlongest, hlive, hm, hunknown'.mpr rfl, (hframe live.info m' hlive).2⟩

end Lengths

end Page

end PlayerPage
