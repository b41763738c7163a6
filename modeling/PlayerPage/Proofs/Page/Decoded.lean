import PlayerPage.Proofs.Page.Precedence

/-!
The response of the player as a JSON text and as the object that the text denotes.

* `Page.withResponse`, `Page.withoutResponse`: a page with another response of the player, or with
  none; all else in it stays the same.
* `Page.track_eq`: the schema that tells of the track is chosen by the response alone.
  `Page.track_of_decoded`: the text and the object tell the same of a track, unless the object is
  empty, which counts as no response; `Page.track_of_empty` is an instance where they differ.
* `Run.Alike`: two pieces of work that come to the same, and to the same traffic; so do steps that
  are alike, one after the other (`Run.Alike.bind`), and two searches whose attempts are alike at
  every field (`Page.search_alike`).
* `Page.formats_of_decoded`: the text and the object give the same formats.
-/

namespace PlayerPage

/-! ### Pages with another response -/

namespace Members

lemma get_put_self (ms : Members) (key : String) (v : Value) : (ms.put key v).get key = v := by
  rw [get, get?_put_self]
  rfl

lemma get_put_of_ne (ms : Members) {key other : String} (v : Value) (h : other ≠ key) :
    (ms.put key v).get other = ms.get other := by
  rw [get, get?_put_of_ne ms v h, get]

lemma erase_cons (k : String) (v : Value) (rest : Members) (key : String) :
    erase ((k, v) :: rest) key =
      if k = key then erase rest key else (k, v) :: erase rest key := by
  by_cases h : k = key <;> simp [erase, h]

lemma get_erase_self (ms : Members) (key : String) : (ms.erase key).get key = .null := by
  have h : (ms.erase key).get? key = none := by
    induction ms with
    | nil => rfl
    | cons m rest ih =>
      obtain ⟨k, v⟩ := m
      rw [erase_cons]
      split_ifs with hk
      · exact ih
      · rw [get?_cons, if_neg (by simp [Ne.symm hk]), ih]
  rw [get, h]
  rfl

lemma get_erase_of_ne (ms : Members) {key other : String} (h : other ≠ key) :
    (ms.erase key).get other = ms.get other := by
  have hget : (ms.erase key).get? other = ms.get? other := by
    induction ms with
    | nil => rfl
    | cons m rest ih =>
      obtain ⟨k, v⟩ := m
      rw [erase_cons]
      split_ifs with hk
      · rw [ih, get?_cons, if_neg (by simp [hk, h])]
      · rw [get?_cons, get?_cons, ih]
  rw [get, hget, get]

end Members

/-- The object in a member of an object, of which the empty one has no members. -/
lemma Value.objectAt_object (ms : Members) (name : String) :
    (Value.object ms).objectAt name = (Members.get ms name).members?.getD [] := by
  have hd : (Value.object ms).descend [.member name] = Members.get ms name := by
    rw [Value.descend, Value.child]
    split
    · next h => exact h.symm
    · rfl
  simp only [Value.objectAt, Value.find?, List.findSome?, hd]
  cases Members.get ms name with
  | object xs => cases xs <;> rfl
  | null | bool | int | float | str | bytes | list | tuple => rfl

/-- A text is the response of the player that it denotes. -/
lemma Extractor.playerResponse_str {e : Extractor} {text : String} {videoId v : Value}
    (h : Json.parse text = .ok v) : e.playerResponse (.str text) videoId = .ok v := by
  have hl : Json.load (.str text) = .ok v := h
  simp only [playerResponse, parseJson, hl]

namespace Page

variable {p p' : Page} {access : Access}

/-- The page with other arguments of the player. -/
def withArguments (p : Page) (arguments : Members) : Page :=
  { p with info := .object ((p.info.members?.getD []).put "args" (.object arguments)) }

/-- The page with this response of the player among its arguments. -/
def withResponse (p : Page) (response : Value) : Page :=
  p.withArguments ((p.info.objectAt "args").put "player_response" response)

/-- The page with no response of the player among its arguments. -/
def withoutResponse (p : Page) : Page :=
  p.withArguments ((p.info.objectAt "args").erase "player_response")

variable (p) in
lemma objectAt_withArguments (arguments : Members) :
    (p.withArguments arguments).info.objectAt "args" = arguments := by
  rw [withArguments, Value.objectAt_object, Members.get_put_self]
  rfl

variable (p) in
/-- The script stands elsewhere. -/
lemma script_withArguments (arguments arguments' : Members) :
    (p.withArguments arguments).script = (p.withArguments arguments').script := by
  have h (ms : Members) : (p.withArguments ms).info.descend [.member "assets", .member "js"] =
      (Value.object (p.info.members?.getD [])).descend [.member "assets", .member "js"] := by
    rw [Value.descend, Value.descend]
    simp only [withArguments, Value.child]
    rw [Members.get_put_of_ne _ _ (by decide)]
  simp only [script, Value.find, Value.find?, List.findSome?, h]

/-! ### Metadata -/

variable (p) in
/-- The metadata that facts amount to, or the reason why the video cannot be played. -/
def conclude (facts : Except (Option String) TrackFacts) : Except Failure (Option TrackMetadata) :=
  match facts with
  | .error reason => .error (.unplayable (.ofOption reason) p.videoId)
  | .ok facts => some <$> p.extractor.track p.videoId facts

variable (p) in
/-- An argument of the player; null without one, or without any arguments. -/
def argument (name : String) : Value :=
  Members.get (p.info.objectAt "args") name

/-- The schema is chosen by the response of the player, of which the empty object counts as none;
the rest of the arguments matters only without it. -/
lemma track_eq (h : p.info.isNull = false) :
    p.track =
      if (p.argument "player_response").isVoid then p.conclude (TrackFacts.ofArguments p.arguments)
      else
        p.extractor.playerResponse (p.argument "player_response") p.videoId >>=
          fun response => p.conclude (TrackFacts.ofResponse response) := by
  have ht : p.track = p.extractor.trackFacts p.videoId p.arguments >>= p.conclude := by
    rw [track, Extractor.trackOfPage, if_neg (by simp [h])]
    rfl
  have hm : p.arguments.member "player_response" = if (p.argument "player_response").isVoid then
      .null else p.argument "player_response" := Value.member_object _ _
  rw [ht, Extractor.trackFacts, hm]
  by_cases hv : (p.argument "player_response").isVoid
  · rw [if_pos hv, if_pos hv]
    rfl
  · rw [if_neg hv, if_neg hv]
    split
    · next hn =>
      rw [hn] at hv
      exact absurd rfl hv
    · cases p.extractor.playerResponse (p.argument "player_response") p.videoId <;> rfl

variable (p) in
/-- The same for a page with other arguments of the player. -/
lemma track_withArguments (arguments : Members) :
    (p.withArguments arguments).track =
      if (Members.get arguments "player_response").isVoid then
        p.conclude (TrackFacts.ofArguments (.object arguments))
      else
        p.extractor.playerResponse (Members.get arguments "player_response") p.videoId >>=
          fun response => p.conclude (TrackFacts.ofResponse response) := by
  have hn : (p.withArguments arguments).info.isNull = false := rfl
  rw [track_eq hn, argument, Page.arguments, objectAt_withArguments]
  rfl

/-- The facts in the arguments of the player do not depend on the response. -/
lemma ofArguments_congr {arguments arguments' : Members}
    (h : ∀ name ≠ "player_response",
      Members.get arguments' name = Members.get arguments name) :
    TrackFacts.ofArguments (.object arguments') = TrackFacts.ofArguments (.object arguments) := by
  have hm (name : String) (hn : name ≠ "player_response") :
      (Value.object arguments').member name = (Value.object arguments).member name := by
    rw [Value.member_object, Value.member_object, h name hn]
  rw [TrackFacts.ofArguments, TrackFacts.ofArguments, hm _ (by decide), hm _ (by decide),
    hm _ (by decide), hm _ (by decide), hm _ (by decide), hm _ (by decide)]

section

variable (p) {text : String} {ms : Members}

/-- A text tells what the object tells that it denotes. -/
lemma track_withResponse_str (h : Json.parse text = .ok (.object ms)) :
    (p.withResponse (.str text)).track = p.conclude (TrackFacts.ofResponse (.object ms)) := by
  rw [withResponse, track_withArguments, Members.get_put_self, if_neg (by simp [Value.isVoid]),
    Extractor.playerResponse_str h]
  rfl

lemma track_withResponse_object (hne : ms ≠ []) :
    (p.withResponse (.object ms)).track = p.conclude (TrackFacts.ofResponse (.object ms)) := by
  rw [withResponse, track_withArguments, Members.get_put_self,
    if_neg (by simp [Value.isVoid, hne])]
  rfl

/-- The empty object counts as no response. -/
lemma track_withResponse_empty : (p.withResponse (.object [])).track = p.withoutResponse.track := by
  have hempty : (Value.object []).isVoid = true := rfl
  have hnull : Value.null.isVoid = true := rfl
  rw [withResponse, withoutResponse, track_withArguments, track_withArguments,
    Members.get_put_self, Members.get_erase_self, if_pos hempty, if_pos hnull]
  refine congrArg p.conclude (ofArguments_congr fun name hn => ?_)
  rw [Members.get_put_of_ne _ _ hn, Members.get_erase_of_ne _ hn]

end

/-- **The response as text and as object, for the metadata.** A JSON text tells the same of a track
as the object that it denotes, or fails with the same error, unless the object is empty. The text of
the empty object names no length, which is an error; the empty object itself counts as no response,
so that the rest of the arguments tells of the track. -/
theorem track_of_decoded (p : Page) {text : String} {ms : Members}
    (h : Json.parse text = .ok (.object ms)) :
    let read := (p.withResponse (.str text)).track
    let decoded := (p.withResponse (.object ms)).track
    (ms ≠ [] → read = decoded) ∧
      (ms = [] →
        read = .error (.extractor "Unable to extract track length" (.value .null) p.videoId
          p.extractor.nameValue) ∧
        decoded = p.withoutResponse.track) := by
  intro read decoded
  have hread : read = p.conclude (TrackFacts.ofResponse (.object ms)) :=
    p.track_withResponse_str h
  refine ⟨fun hne => ?_, ?_⟩
  · rw [hread]
    exact (p.track_withResponse_object hne).symm
  · rintro rfl
    exact ⟨hread, p.track_withResponse_empty⟩

/-- A response that names a length tells it as a text and as an object, whatever the rest of the
arguments tells. -/
theorem track_of_decoded_length :
    let page : Page := .ofInfo (.str "abc")
      (.object [("args", .object [("title", .str "T"), ("length_seconds", .str "5")])]) []
    let text := "\x7b\"videoDetails\": \x7b\"lengthSeconds\": \"7\"\x7d\x7d"
    let response : Members := [("videoDetails", .object [("lengthSeconds", .str "7")])]
    Json.parse text = .ok (.object response) ∧
      (page.withResponse (.str text)).track = (page.withResponse (.object response)).track ∧
      (page.withResponse (.object response)).track = .ok (some ⟨none, none, 7000, .str "abc", false,
        .str "https://www.youtube.com/watch?v=abc"⟩) := by
  intro page text response
  have h : Json.parse text = .ok (.object response) := by
    rw [Json.parse, if_neg (by simp [text])]
    simp only [text, String.reduceToList]
    rfl
  exact ⟨h, (track_of_decoded page h).1 (by simp [response]), rfl⟩

/-- The text of the empty object and the empty object do not tell the same: the one is an error,
with the other the rest of the arguments counts. -/
theorem track_of_empty :
    let page : Page := .ofInfo (.str "abc")
      (.object [("args", .object [("title", .str "T"), ("length_seconds", .str "5")])]) []
    let shown (response : Value) := (page.withResponse response).track.mapError fun f =>
      (f.className, f.message)
    Json.parse "{}" = .ok (.object []) ∧ shown (.str "{}") ≠ shown (.object []) := by
  intro page shown
  have hread : (page.withResponse (.str "{}")).track =
      .error (.extractor "Unable to extract track length" (.value .null) (.str "abc")
        (.str "youtube")) := rfl
  have hdecoded : (page.withResponse (.object [])).track = .ok (some ⟨some "T", none, 5000,
      .str "abc", false, .str "https://www.youtube.com/watch?v=abc"⟩) := rfl
  refine ⟨rfl, ?_⟩
  simp only [shown, hread, hdecoded]
  simp [Except.mapError]

end Page

/-! ### Work that comes to the same -/

namespace Run

variable {α : Type} {m m' : Run α}

/-- Two pieces of work come to the same, and to the same traffic, whatever was reported before. -/
def Alike (m m' : Run α) : Prop :=
  ∀ s t : Session, s.SameTraffic t → (m s).1 = (m' t).1 ∧ (m s).2.SameTraffic (m' t).2

lemma IgnoresReports.alike (h : IgnoresReports m) : Alike m m := h

/-- Steps that are alike, one after the other. -/
lemma Alike.bind {β : Type} {k k' : α → Run β} (hm : Alike m m') (hk : ∀ a, Alike (k a) (k' a)) :
    Alike (m >>= k) (m' >>= k') := fun s t h => by
  obtain ⟨h1, h2⟩ := hm s t h
  rw [bind_apply, bind_apply]
  rcases hs : m s with ⟨_ | a, s'⟩ <;> rcases ht : m' t with ⟨_ | b, t'⟩ <;>
    rw [hs, ht] at h1 h2 <;> cases h1
  · exact ⟨rfl, h2⟩
  · exact hk a s' t' h2

/-- Work that only reports is alike if it comes to the same. -/
lemma Local.alike (h : Local m) (h' : Local m') (he : ∀ s, (m s).1 = (m' s).1) : Alike m m' :=
  fun s t hst => ⟨(he s).trans (h' s t).1, (h.traffic s).symm.trans (hst.trans (h'.traffic t))⟩

end Run

namespace Page

variable {p p' : Page} {access : Access}

variable (p) in
/-- The error that no field of the arguments gives any formats. -/
def nothingFound : Failure :=
  .unrecognized p.arguments p.videoId p.extractor.nameValue

/-- The outcomes for two pages are the same, but that an error which shows the arguments of the
player shows those of its page. -/
def SameOutcome (p p' : Page) (outcome outcome' : Except Failure (List Format)) : Prop :=
  outcome = outcome' ∨ outcome = .error p.nothingFound ∧ outcome' = .error p'.nothingFound

/-- Outcomes that are the same but for the arguments they show are formats, or errors of one
class. -/
lemma SameOutcome.className {outcome outcome' : Except Failure (List Format)}
    (h : SameOutcome p p' outcome outcome') :
    outcome.mapError Failure.className = outcome'.mapError Failure.className := by
  rcases h with rfl | ⟨rfl, rfl⟩ <;> rfl

/-- Searches whose attempts are alike come to the same, and to the same traffic. -/
lemma search_alike (hp : p.extractor.reporting.Working) (hp' : p'.extractor.reporting.Working)
    {fields : List FormatSource}
    (h : ∀ source ∈ fields, Run.Alike (p.attempt access source) (p'.attempt access source))
    {s t : Session} (hst : s.SameTraffic t) :
    let run := p.search access fields s
    let run' := p'.search access fields t
    SameOutcome p p' run.1 run'.1 ∧ run.2.SameTraffic run'.2 := by
  induction fields generalizing s t with
  | nil =>
    exact ⟨.inr ⟨unrecognized_fst hp s, unrecognized_fst hp' t⟩,
      (p.unrecognized_local.traffic s).symm.trans (hst.trans (p'.unrecognized_local.traffic t))⟩
  | cons source rest ih =>
    obtain ⟨ho, ht⟩ := h source (by simp) s t hst
    rcases ha : p.attempt access source s with ⟨outcome, u⟩
    rcases ha' : p'.attempt access source t with ⟨outcome', u'⟩
    rw [ha, ha'] at ho ht
    obtain rfl : outcome = outcome' := ho
    by_cases hnil : outcome = .ok []
    · subst hnil
      rw [search_of_passed ha, search_of_passed ha']
      exact ih (fun field hf => h field (by simp [hf])) ht
    · rw [search_of_stop ha hnil, search_of_stop ha' hnil]
      exact ⟨.inl rfl, ht⟩

/-! ### Formats -/

/-- The formats that a decoded response of the player lists. -/
def listed (response : Value) : List Format :=
  let data := response.objectAt "streamingData"
  (Listing.ofStreaming (Members.get data "formats")).formats ++
    (Listing.ofStreaming (Members.get data "adaptiveFormats")).formats

section

variable (p) (access) {text : String} {ms : Members}

lemma get_withResponse (response : Value) :
    Members.get ((p.withResponse response).info.objectAt "args") FormatSource.playerResponse.name =
      response := by
  rw [withResponse, objectAt_withArguments]
  exact Members.get_put_self _ _ _

/-- The formats of a response that is there are those that are listed in it. -/
lemma share_withResponse (hp : p.extractor.reporting.Working) {v response : Value}
    (hv : FormatSource.playerResponse.value? (p.withResponse v).arguments = some v)
    (hr : p.extractor.playerResponse v p.videoId = .ok response) (s : Session) :
    (p.withResponse v).share access .playerResponse s = .ok (listed response) := by
  have hl : ((p.withResponse v).load access .playerResponse v s).1 =
      (p.extractor.playerResponse v p.videoId).map listed :=
    load_playerResponse hp access v s
  rw [share_of_present hv]
  exact hl.trans (by rw [hr]; rfl)

/-- A text gives the formats that are listed in the object that it denotes. -/
lemma share_withResponse_str (hp : p.extractor.reporting.Working)
    (h : Json.parse text = .ok (.object ms)) (s : Session) :
    (p.withResponse (.str text)).share access .playerResponse s = .ok (listed (.object ms)) :=
  p.share_withResponse access hp (FormatSource.value?_of_str (p.get_withResponse _))
    (Extractor.playerResponse_str h) s

/-- An object gives the formats that are listed in it; there are none in the empty one, which is not
even looked at. -/
lemma share_withResponse_object (hp : p.extractor.reporting.Working) (ms : Members) (s : Session) :
    (p.withResponse (.object ms)).share access .playerResponse s = .ok (listed (.object ms)) := by
  by_cases hne : ms = []
  · subst hne
    have hv :
        FormatSource.playerResponse.value? (p.withResponse (.object [])).arguments = none := by
      rw [arguments, FormatSource.value?_eq_none_iff, FormatSource.Absent, p.get_withResponse]
      simp
    rw [share_of_absent hv]
    rfl
  · exact p.share_withResponse access hp (FormatSource.value?_of_object hne (p.get_withResponse _))
      rfl s

/-- The attempts at every field are alike for the text and for the object that it denotes. -/
lemma attempt_withResponse_alike (hp : p.extractor.reporting.Working)
    (h : Json.parse text = .ok (.object ms)) (source : FormatSource) :
    Run.Alike ((p.withResponse (.str text)).attempt access source)
      ((p.withResponse (.object ms)).attempt access source) := by
  have hq (v : Value) : (p.withResponse v).extractor.reporting.Working := hp
  by_cases hs : source = .playerResponse
  · subst hs
    refine Run.Local.alike (attempt_local _ access (by simp)) (attempt_local _ access (by simp))
      fun s => ?_
    rw [attempt_fst (hq _), attempt_fst (hq _), p.share_withResponse_str access hp h,
      p.share_withResponse_object access hp]
  · -- the other fields hold the same
    have hname : source.name ≠ "player_response" :=
      fun he => hs (FormatSource.name_injective he)
    have hfield : Members.get ((p.withResponse (.str text)).info.objectAt "args") source.name =
        Members.get ((p.withResponse (.object ms)).info.objectAt "args") source.name := by
      rw [withResponse, withResponse, objectAt_withArguments, objectAt_withArguments,
        Members.get_put_of_ne _ _ hname, Members.get_put_of_ne _ _ hname]
    have hscript : (p.withResponse (.str text)).script = (p.withResponse (.object ms)).script :=
      p.script_withArguments _ _
    have hreader : (p.withResponse (.str text)).extractor =
      (p.withResponse (.object ms)).extractor := rfl
    rw [attempt_congr hreader rfl hscript hfield]
    exact (attempt_ignoresReports _ access source).alike

end

/-- **The response as text and as object, for the formats**, with working settings. A JSON text and
the object that it denotes give the same formats or fail with errors of the same class, the same
ones unless they show the arguments of the player; and they send the same requests, get the same
responses and look up the same addresses. -/
theorem formats_of_decoded (hp : p.extractor.reporting.Working) (access : Access) {text : String}
    {ms : Members} (h : Json.parse text = .ok (.object ms)) (s : Session) :
    let pageRead := p.withResponse (.str text)
    let pageDecoded := p.withResponse (.object ms)
    let read := pageRead.formats access s
    let decoded := pageDecoded.formats access s
    read.1.mapError Failure.className = decoded.1.mapError Failure.className ∧
      SameOutcome pageRead pageDecoded read.1 decoded.1 ∧
      read.2.requests = decoded.2.requests ∧ read.2.responses = decoded.2.responses ∧
      read.2.lookups = decoded.2.lookups := by
  intro pageRead pageDecoded read decoded
  have hsame :
      SameOutcome pageRead pageDecoded read.1 decoded.1 ∧ read.2.SameTraffic decoded.2 := by
    have hread : pageRead.extractor.reporting.Working := hp
    have hdecoded : pageDecoded.extractor.reporting.Working := hp
    have hsearch := search_alike hread hdecoded
      (fun source (_ : source ∈ FormatSource.all) =>
        p.attempt_withResponse_alike access hp h source) (.refl s)
    rwa [← formats_eq_search, ← formats_eq_search] at hsearch
  obtain ⟨ho, ht⟩ := hsame
  refine ⟨?_, ho, ht.requests.symm, ht.responses.symm, ht.lookups.symm⟩
  rcases ho with ho | ⟨ho, ho'⟩
  · rw [ho]
  · rw [ho, ho']
    rfl

/-- A response without members is no hindrance for the manifest, be it a text or an object. -/
theorem formats_of_decoded_empty :
    let page : Page := .ofInfo (.str "abc")
      (.object [("args", .object [("dashmpd", .str "http://x/mpd")])]) [("logger", .recorder true)]
    let answer := Http.Handler.answer (Text.Utf8.encode "<MPD/>".toList) none (.object [])
      (.int 200) .null false
    let access : Access := ⟨some (.ofScript [answer]), .passthrough⟩
    let read := (page.withResponse (.str "{}")).formats access {}
    let decoded := (page.withResponse (.object [])).formats access {}
    page.extractor.reporting.Working ∧ Json.parse "{}" = .ok (.object []) ∧
      read.1.mapError Failure.className = .error "UnrecognizedFormatsError" ∧
      decoded.1.mapError Failure.className = .error "UnrecognizedFormatsError" ∧
      read.2.requests = [.get "http://x/mpd"] ∧ decoded.2.requests = [.get "http://x/mpd"] := by
  intro page answer access read decoded
  have hp : page.extractor.reporting.Working := fun v h => by cases h
  have h : Json.parse "{}" = .ok (.object []) := rfl
  obtain ⟨hclass, -, hrequests, -, -⟩ := formats_of_decoded hp access h {}
  have hdecoded : decoded.1.mapError Failure.className = .error "UnrecognizedFormatsError" := rfl
  have hsent : decoded.2.requests = [.get "http://x/mpd"] := rfl
  exact ⟨hp, h, hclass.trans hdecoded, hdecoded, hrequests.trans hsent, hsent⟩

end Page

end PlayerPage
