import PlayerPage.Proofs.Page.Decoded

/-!
What a caller sets for reports, and what comes of a page.

* `Extractor.Counterparts`: two extractors of one name that can hand on all reports, each in its own
  way. Their work is alike, step by step (`Run.Alike.bind`): they deliver the same listings, obtain
  the same documents and read the same manifests in them.
* `Page.load_alike`, `Page.attempt_alike`, `Page.formats_alike`: so the formats of a field, the
  attempt at it and the formats of a page are alike; `Page.track_seenBy`: the metadata are even the
  same.
* `Page.outcome_of_settings`: what is set for reports influences nothing but the reports.
-/

namespace PlayerPage

/-! ### Extractors of one name -/

namespace Extractor

variable {e e' : Extractor}

lemma nameValue_congr (hn : e'.name = e.name) : e'.nameValue = e.nameValue := by
  rw [nameValue, nameValue, hn]

lemma playerResponse_congr (hn : e'.name = e.name) (response videoId : Value) :
    e'.playerResponse response videoId = e.playerResponse response videoId := by
  cases response <;> simp only [playerResponse, parseJson, misread, nameValue_congr hn]

/-- What is obtained depends on the name alone, which stands in the errors. -/
lemma obtain_congr (hn : e'.name = e.name) (videoId note : Value) (handler : Option Http.Handler)
    (url : Value) : e'.obtain videoId note handler url = e.obtain videoId note handler url := by
  obtain ⟨name, settings, reporting⟩ := e
  obtain ⟨name', settings', reporting'⟩ := e'
  obtain rfl : name' = name := hn
  rfl

/-- Two extractors of one name, both of which can hand on every report. -/
structure Counterparts (e e' : Extractor) : Prop where
  name : e'.name = e.name
  working : e.reporting.Working
  working' : e'.reporting.Working

namespace Counterparts

variable (videoId : Value)

lemma announce_alike (h : e.Counterparts e') (announcement : Value) :
    Run.Alike (e.announce videoId announcement) (e'.announce videoId announcement) :=
  (e.announce_local videoId announcement).alike (e'.announce_local videoId announcement) fun s =>
    (announce_ok videoId h.working announcement s).trans
      (announce_ok videoId h.working' announcement s).symm

lemma deliver_alike (h : e.Counterparts e') (listing : Listing) :
    Run.Alike (listing.deliver (some e) videoId) (listing.deliver (some e') videoId) :=
  (listing.deliver_local e videoId).alike (listing.deliver_local e' videoId) fun s =>
    (listing.deliver_ok videoId h.working s).trans (listing.deliver_ok videoId h.working' s).symm

lemma downloadXml_alike (h : e.Counterparts e') (handler : Option Http.Handler)
    (url announcement note : Value) :
    Run.Alike (e.downloadXml handler url videoId announcement note)
      (e'.downloadXml handler url videoId announcement note) := by
  rw [downloadXml_eq, downloadXml_eq, obtain_congr h.name]
  exact (h.announce_alike videoId announcement).bind fun _ =>
    (Page.obtain_ignoresReports e videoId note handler url).alike

lemma readManifest_alike (h : e.Counterparts e') (document : Xml.Element) :
    Run.Alike (readManifest (some e) document videoId)
      (readManifest (some e') document videoId) := by
  rw [readManifest, readManifest]
  rcases Manifest.read document with ⟨listing, flaw⟩
  refine (h.deliver_alike videoId listing).bind fun formats => ?_
  cases flaw with
  | none => exact (Run.Local.pure formats).ignoresReports.alike
  | some flaw =>
    simp only [Option.map_some, Option.getD_some, nameValue_congr h.name]
    exact (Run.Local.throw _).ignoresReports.alike

end Counterparts

end Extractor

/-! ### Pages -/

namespace Page

variable {e' : Extractor}

/-- The page as another extractor sees it. -/
def seenBy (p : Page) (e' : Extractor) : Page :=
  { p with extractor := e' }

section

variable {p : Page} (h : p.extractor.Counterparts e') (access : Access)
include h

/-- The formats of a field are the same for both extractors. -/
lemma load_alike (source : FormatSource) (v : Value) :
    Run.Alike (p.load access source v) ((p.seenBy e').load access source v) := by
  cases source with
  | adaptive | streamMap => exact h.deliver_alike p.videoId _
  | playerResponse =>
    show Run.Alike (p.ofResponse v) ((p.seenBy e').ofResponse v)
    rw [ofResponse, ofResponse]
    show Run.Alike _ (Run.ofExcept (e'.playerResponse v p.videoId) >>= _)
    rw [Extractor.playerResponse_congr h.name]
    refine (Run.Local.ofExcept _).ignoresReports.alike.bind fun response => ?_
    refine (h.deliver_alike p.videoId _).bind fun formats => ?_
    exact (h.deliver_alike p.videoId _).bind fun adaptive =>
      (Run.Local.pure _).ignoresReports.alike
  | manifest =>
    show Run.Alike (p.ofManifest access v) ((p.seenBy e').ofManifest access v)
    rw [ofManifest_eq, ofManifest_eq]
    refine (p.resolve_ignoresReports access.resolver v).alike.bind fun address => ?_
    exact (h.downloadXml_alike p.videoId _ _ _ _).bind fun document =>
      h.readManifest_alike p.videoId document

/-- The attempt at a field is the same for both extractors. -/
lemma attempt_alike (source : FormatSource) :
    Run.Alike (p.attempt access source) ((p.seenBy e').attempt access source) := by
  have harguments : (p.seenBy e').arguments = p.arguments := rfl
  cases hv : source.value? p.arguments with
  | none =>
    intro s t hst
    rw [← harguments] at hv
    rw [attempt_of_absent hv, attempt_of_absent (harguments ▸ hv)]
    exact ⟨rfl, hst⟩
  | some v =>
    rw [attempt_of_present hv]
    rw [← harguments] at hv
    rw [attempt_of_present hv]
    refine (load_alike h access source v).bind fun formats => ?_
    have hremark : Run.Alike (p.remark source formats) ((p.seenBy e').remark source formats) := by
      have hok : (p.seenBy e').extractor.reporting.Working := h.working'
      exact (p.remark_local source formats).alike ((p.seenBy e').remark_local source formats)
        fun s => (remark_ok h.working source formats s).trans (remark_ok hok source formats s).symm
    exact hremark.bind fun _ => (Run.Local.pure formats).ignoresReports.alike

/-- The formats of a page are the same for both extractors. -/
lemma formats_alike : Run.Alike (p.formats access) ((p.seenBy e').formats access) := by
  intro s t hst
  have hok : (p.seenBy e').extractor.reporting.Working := h.working'
  have hfound : (p.seenBy e').nothingFound = p.nothingFound := by
    show Failure.unrecognized _ _ e'.nameValue = _
    rw [Extractor.nameValue_congr h.name]
    rfl
  rw [formats_eq_search, formats_eq_search]
  obtain ⟨ho, ht⟩ := search_alike h.working hok
    (fun source (_ : source ∈ FormatSource.all) => attempt_alike h access source) hst
  refine ⟨?_, ht⟩
  rcases ho with ho | ⟨ho, ho'⟩
  · exact ho
  · rw [ho, ho', hfound]

end

/-- The metadata are the same for an extractor of the same name, if its caller set the same for the
beginning of addresses. -/
lemma track_seenBy (p : Page) (hn : e'.name = p.extractor.name)
    (hb : ∀ default, e'.setting "base_url" default = p.extractor.setting "base_url" default) :
    (p.seenBy e').track = p.track := by
  have htrack (facts : TrackFacts) :
      e'.track p.videoId facts = p.extractor.track p.videoId facts := by
    simp only [Extractor.track, Extractor.trackLength, Extractor.trackUri,
      Extractor.nameValue_congr hn, hb]
  show e'.trackOfPage p.videoId p.info = p.extractor.trackOfPage p.videoId p.info
  simp only [Extractor.trackOfPage, Extractor.trackFacts, Extractor.playerResponse_congr hn, htrack]

/-- **Reports influence nothing.** Two callers set the same for the beginning of addresses, and for
reports whatever they like: a logger or none, one that counts as a yes or as a no, debug messages or
none, warnings or none. If all their reports can be handed on, then a page comes to the same for
both: the same formats or the same failure, the same requests, responses and look-ups, and the same
metadata or the same failure to find them. -/
theorem outcome_of_settings {settings settings' : Settings} (h : settings.Working)
    (h' : settings'.Working) (hb : settings'.lookup "base_url" = settings.lookup "base_url")
    (videoId info : Value) (access : Access) (s : Session) :
    let page := Page.ofInfo videoId info settings
    let page' := Page.ofInfo videoId info settings'
    let run := page.formats access s
    let run' := page'.formats access s
    run'.1 = run.1 ∧ run'.2.requests = run.2.requests ∧ run'.2.responses = run.2.responses ∧
      run'.2.lookups = run.2.lookups ∧ page'.track = page.track := by
  intro page page' run run'
  have hc : page.extractor.Counterparts page'.extractor := ⟨rfl, h, h'⟩
  have hbase (default : Value) : page'.extractor.setting "base_url" default =
      page.extractor.setting "base_url" default := by
    have hlookup : page'.extractor.settings.lookup "base_url" =
        page.extractor.settings.lookup "base_url" := hb
    rw [Extractor.setting, Extractor.setting, hlookup]
  obtain ⟨ho, ht⟩ := formats_alike hc access s s (.refl s)
  exact ⟨ho.symm, ht.requests, ht.responses, ht.lookups, page.track_seenBy rfl hbase⟩

/-- A logger that counts as a no, with debug messages, and a console without warnings: the same
format of a manifest after a field without any, and the same metadata, with different reports. -/
theorem outcome_of_settings_unheard :
    let info : Value := .object [("args", .object [("adaptive_fmts", .str "type=a"),
      ("dashmpd", .str "http://x/mpd"), ("length_seconds", .str "5")])]
    let settings : Settings := [("logger", .recorder false), ("verbose", .value (.bool true))]
    let settings' : Settings := [("no_warnings", .value (.bool true))]
    let body := Text.Utf8.encode ("<MPD><AdaptationSet><Representation bandwidth='7'><BaseURL>" ++
      "http://x/clen/10/a</BaseURL></Representation></AdaptationSet></MPD>").toList
    let answer := Http.Handler.answer body none (.object []) (.int 200) .null false
    let access : Access := ⟨some (.ofScript [answer]), .passthrough⟩
    let page := Page.ofInfo (.str "abc") info settings
    let page' := Page.ofInfo (.str "abc") info settings'
    let run := page.formats access {}
    let run' := page'.formats access {}
    settings.Working ∧ settings'.Working ∧
      (run'.1 = run.1 ∧ run'.2.requests = run.2.requests ∧ run'.2.responses = run.2.responses ∧
        run'.2.lookups = run.2.lookups ∧ page'.track = page.track) ∧
      run.1.toOption =
        some [⟨"; codecs=", 7, 10, "http://x/clen/10/a", none, defaultSignatureKey⟩] ∧
      run.2.requests.map (·.url) = ["http://x/mpd"] ∧
      run.2.journal.length = 1 ∧ run'.2.journal.length = 0 ∧
      run.2.console ≠ "" ∧ run'.2.console = "" := by
  intro info settings settings' body answer access
  have h : settings.Working := fun v hv => by cases hv
  have h' : settings'.Working := fun v hv => by
    cases hv
    rfl
  have hb : settings'.lookup "base_url" = settings.lookup "base_url" := rfl
  have hall := outcome_of_settings h h' hb (.str "abc") info access {}
  exact ⟨h, h', hall, by decide +kernel +zetaReduce⟩

end Page

end PlayerPage
