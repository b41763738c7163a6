import PlayerPage.Proofs.Page.Search
import PlayerPage.Proofs.Text.Search

/-!
What is sent for the formats of a page.

* `Resolver.Signed`, `Resolver.isSigned_iff`: addresses with a scrambled signature.
* `Http.Reply.settle_closed`: a reply that was settled leaves no
  response open that came with it.
* `Session.Silent`, `Session.Exchanged`: nothing was sent between two sessions, or one request,
  whose reply was settled.
* `Page.ofManifest_traffic`, `Page.formats_traffic_cases`: a page sends nothing, or the one request
  for its manifest. `Page.ofManifest_exchanged`, `Page.ofManifest_lookups`: what a manifest costs.
* `Page.Reaches`: the search gets as far as a field.
* `Page.formats_traffic`: what is sent for the formats of a page, and that nothing stays open.
-/

namespace PlayerPage

open Http

/-! ### Scrambled signatures -/

/-- The address carries a scrambled signature: some `/s/` in it is followed by something other
than a slash. -/
def Resolver.Signed (url : String) : Prop :=
  ∃ before c after, url.toList = before ++ '/' :: 's' :: '/' :: c :: after ∧ c ≠ '/'

lemma Resolver.isSigned_cons (c : Char) (rest : List Char) :
    isSigned (c :: rest) = true ↔
      (∃ d after, c :: rest = '/' :: 's' :: '/' :: d :: after ∧ d ≠ '/') ∨
        isSigned rest = true := by
  rw [isSigned, Bool.or_eq_true]
  refine or_congr ⟨fun h => ?_, ?_⟩ Iff.rfl
  · split at h
    · next d after ha => exact ⟨d, after, (Text.after?_eq_some_iff _ _ _).mp ha, by simpa using h⟩
    · cases h
  · rintro ⟨d, after, he, hd⟩
    have ha : Text.after? ['/', 's', '/'] (c :: rest) = some (d :: after) :=
      (Text.after?_eq_some_iff _ _ _).mpr he
    rw [ha]
    simpa using hd

/-- An address is refused exactly if it carries a scrambled signature. -/
lemma Resolver.isSigned_iff (url : String) : isSigned url.toList = true ↔ Signed url := by
  rw [Signed]
  induction url.toList with
  | nil => simp [isSigned]
  | cons c rest ih =>
    rw [isSigned_cons, ih]
    constructor
    · rintro (⟨d, after, he, hd⟩ | ⟨before, d, after, he, hd⟩)
      · exact ⟨[], d, after, he, hd⟩
      · exact ⟨c :: before, d, after, by rw [he]; rfl, hd⟩
    · rintro ⟨before, d, after, he, hd⟩
      cases before with
      | nil => exact .inl ⟨d, after, he, hd⟩
      | cons b before =>
        obtain ⟨-, hr⟩ := List.cons.inj he
        exact .inr ⟨before, d, after, hr, hd⟩

lemma Resolver.passthrough_of_signed {url : String} (h : Signed url) (script : Value) :
    passthrough.resolve script (.str url) = .error (.signature signedText) := by
  show unscrambled (.str url) = _
  rw [unscrambled, if_pos ((isSigned_iff url).mpr h)]

/-- An address that is taken is taken as it is. -/
lemma Resolver.eq_of_passthrough {script : Value} {url resolved : String}
    (h : passthrough.resolve script (.str url) = .ok (.str resolved)) :
    resolved = url ∧ ¬ Signed url := by
  by_cases hs : Signed url
  · rw [passthrough_of_signed hs] at h
    cases h
  · refine ⟨?_, hs⟩
    change unscrambled (.str url) = _ at h
    rw [unscrambled, if_neg (fun hi => hs ((isSigned_iff url).mp hi))] at h
    cases h
    rfl

/-! ### Settled replies -/

lemma Http.Response.spend_closed (r : Response) : r.spend.closed = true := by
  rw [spend]
  split_ifs <;> rfl

/-- No response is lost. -/
lemma Http.Reply.length_le_settle (reply : Reply) (responses : List Response) :
    responses.length ≤ (reply.settle responses).length := by
  rcases reply with ⟨r, _ | _⟩ | f
  · simp [settle]
  · simp [settle]
  · cases f <;> simp [settle]

/-- What came with a reply that was settled is closed. -/
lemma Http.Reply.settle_closed (reply : Reply) (responses : List Response) :
    ∀ r ∈ (reply.settle responses).drop responses.length, r.closed = true := by
  rcases reply with ⟨r, _ | _⟩ | f
  · simp [settle, Response.spend_closed]
  · simp [settle, Response.close]
  · have hnil : ((Reply.failure f).settle responses).drop responses.length = [] := by
      rw [List.drop_eq_nil_iff]
      cases f <;> simp [settle]
    simp [hnil]

/-! ### Sessions with at most one request -/

namespace Session

/-- Nothing was sent between two sessions, and nothing came. -/
structure Silent (s t : Session) : Prop where
  requests : t.requests = s.requests
  responses : t.responses = s.responses

/-- One request was sent between two sessions, and the reply to it was settled. -/
structure Exchanged (handler : Handler) (request : Request) (s t : Session) : Prop where
  requests : t.requests = s.requests ++ [request]
  responses : t.responses = (handler.respond s.requests.length request).settle s.responses

variable {handler : Handler} {request : Request} {s t u : Session}

lemma SameTraffic.silent (h : s.SameTraffic t) : s.Silent t := ⟨h.requests, h.responses⟩

lemma Silent.trans (h : s.Silent t) (h' : t.Silent u) : s.Silent u :=
  ⟨h'.requests.trans h.requests, h'.responses.trans h.responses⟩

lemma Silent.exchanged (h : s.Silent t) (h' : Exchanged handler request t u) :
    Exchanged handler request s u := by
  obtain ⟨hq, hr⟩ := h'
  rw [h.requests] at hq hr
  rw [h.responses] at hr
  exact ⟨hq, hr⟩

lemma Exchanged.silent (h : Exchanged handler request s t) (h' : t.Silent u) :
    Exchanged handler request s u :=
  ⟨h'.requests.trans h.requests, h'.responses.trans h.responses⟩

end Session

/-! ### The one request -/

/-- What is obtained costs nothing, or an exchange. -/
lemma Extractor.obtain_cases (e : Extractor) (handler : Option Handler) (url videoId note : Value)
    (s : Session) :
    (e.obtain videoId note handler url s).2 = s ∨ ∃ h address, handler = some h ∧
      url = .str address ∧
      e.obtain videoId note handler url s = e.exchange videoId note h (.get address) s := by
  cases handler with
  | none => exact .inl rfl
  | some h =>
    cases url with
    | str address => exact .inr ⟨h, address, rfl, rfl, rfl⟩
    | null | bool | int | float | bytes | list | tuple | object => exact .inl rfl

/-- A download sends nothing, or its one request. -/
lemma Extractor.downloadXml_traffic (e : Extractor) (handler : Option Handler)
    (url videoId announcement note : Value) (s : Session) :
    let run := e.downloadXml handler url videoId announcement note s
    s.Silent run.2 ∨ ∃ h address, handler = some h ∧ url = .str address ∧
      s.Exchanged h (.get address) run.2 := by
  have ht := ((e.announce_local videoId announcement).traffic s).silent
  rw [downloadXml_eq]
  rcases ha : e.announce videoId announcement s with ⟨f | _, t⟩
  · rw [ha] at ht
    rw [Run.bind_of_error ha]
    exact .inl ht
  · rw [ha] at ht
    rw [Run.bind_of_ok ha]
    rcases e.obtain_cases handler url videoId note t with ho | ⟨h, address, hh, hu, ho⟩
    · refine .inl ?_
      rw [ho]
      exact ht
    · rw [ho, exchange_apply]
      exact .inr ⟨h, address, hh, hu, ht.exchanged ⟨rfl, rfl⟩⟩

/-- A download looks nothing up. -/
lemma Extractor.downloadXml_lookups (e : Extractor) (handler : Option Handler)
    (url videoId announcement note : Value) (s : Session) :
    (e.downloadXml handler url videoId announcement note s).2.lookups = s.lookups := by
  have ht := ((e.announce_local videoId announcement).traffic s).lookups
  rw [downloadXml_eq]
  rcases ha : e.announce videoId announcement s with ⟨f | _, t⟩ <;> rw [ha] at ht
  · rw [Run.bind_of_error ha]
    exact ht
  · rw [Run.bind_of_ok ha]
    rcases e.obtain_cases handler url videoId note t with ho | ⟨h, address, -, -, ho⟩
    · rw [ho]
      exact ht
    · rw [ho, exchange_apply]
      exact ht

/-- A download from an address sends its one request. -/
lemma Extractor.downloadXml_exchanged {e : Extractor} (he : e.reporting.Working) (handler : Handler)
    (address : String) (videoId announcement note : Value) (s : Session) :
    s.Exchanged handler (.get address)
      (e.downloadXml (some handler) (.str address) videoId announcement note s).2 := by
  have ht := ((e.announce_local videoId announcement).traffic s).silent
  rw [downloadXml_eq, Run.bind_of_fst (announce_ok videoId he announcement s), obtain_some,
    exchange_apply]
  exact ht.exchanged ⟨rfl, rfl⟩

namespace Page

variable {p : Page} {access : Access} {s t : Session}

/-- Nothing more is sent after the document of a manifest. -/
lemma document_traffic {url address : Value}
    (hr : access.resolver.resolve p.script url = .ok address) (s : Session) :
    (p.document access address (p.looked url s)).2.SameTraffic (p.ofManifest access url s).2 := by
  rw [ofManifest_apply, hr]
  exact Run.Local.traffic_bind (p.document access address)
    (fun document => readManifest_local p.extractor document p.videoId) (p.looked url s)

/-- The formats of a manifest cost nothing, or the request for what its address was resolved to. -/
lemma ofManifest_traffic (p : Page) (access : Access) (url : Value) (s : Session) :
    let run := p.ofManifest access url s
    s.Silent run.2 ∨ ∃ h resolved, access.handler = some h ∧
      access.resolver.resolve p.script url = .ok (.str resolved) ∧
      s.Exchanged h (.get resolved) run.2 := by
  have hs : s.Silent (p.looked url s) := ⟨rfl, rfl⟩
  cases hr : access.resolver.resolve p.script url with
  | error f =>
    rw [ofManifest_apply, hr]
    exact .inl hs
  | ok address =>
    have hl := (document_traffic hr s).silent
    rcases p.extractor.downloadXml_traffic access.handler address p.videoId _ _ (p.looked url s)
      with hd | ⟨h, resolved, hh, ha, hd⟩
    · exact .inl (hs.trans (hd.trans hl))
    · exact .inr ⟨h, resolved, hh, by rw [ha], (hs.exchanged hd).silent hl⟩

/-- A manifest costs one look-up. -/
lemma ofManifest_lookups (p : Page) (access : Access) (url : Value) (s : Session) :
    (p.ofManifest access url s).2.lookups = s.lookups ++ [(p.script, url)] := by
  cases hr : access.resolver.resolve p.script url with
  | error f => rw [ofManifest_apply, hr, looked]
  | ok address =>
    exact (document_traffic hr s).lookups.trans (Extractor.downloadXml_lookups _ _ _ _ _ _ _)

/-- An address that was found is asked for. -/
lemma ofManifest_exchanged (hp : p.extractor.reporting.Working) {handler : Handler}
    (hh : access.handler = some handler) {url : Value} {address : String}
    (hr : access.resolver.resolve p.script url = .ok (.str address)) (s : Session) :
    s.Exchanged handler (.get address) (p.ofManifest access url s).2 := by
  have hlooked : s.Silent (p.looked url s) := ⟨rfl, rfl⟩
  have hdocument : (p.looked url s).Exchanged handler (.get address)
      (p.document access (.str address) (p.looked url s)).2 := by
    rw [document, hh]
    exact Extractor.downloadXml_exchanged hp _ _ _ _ _ _
  exact (hlooked.exchanged hdocument).silent (document_traffic hr s).silent

/-- Nothing more is sent after what a field holds was loaded. -/
lemma load_traffic {source : FormatSource} {v : Value} (hv : source.value? p.arguments = some v)
    (s : Session) :
    (p.load access source v s).2.SameTraffic (p.attempt access source s).2 := by
  rw [attempt_of_present hv]
  exact Run.Local.traffic_bind (p.load access source v)
    (fun formats => .bind (p.remark_local source formats) fun _ => .pure formats) s

/-- The attempt at the manifest costs nothing, or the request for what its address was resolved
to. -/
lemma attempt_manifest_traffic (p : Page) (access : Access) (s : Session) :
    s.Silent (p.attempt access .manifest s).2 ∨ ∃ url h resolved,
      Members.get (p.info.objectAt "args") FormatSource.manifest.name = .str url ∧
        access.handler = some h ∧
        access.resolver.resolve p.script (.str url) = .ok (.str resolved) ∧
        s.Exchanged h (.get resolved) (p.attempt access .manifest s).2 := by
  cases hv : FormatSource.manifest.value? p.arguments with
  | none =>
    rw [attempt_of_absent hv]
    exact .inl ⟨rfl, rfl⟩
  | some v =>
    obtain ⟨url, rfl, hurl⟩ := FormatSource.value?_eq_str (by simp) hv
    have hl : (p.load access .manifest (.str url) s).2.Silent (p.attempt access .manifest s).2 :=
      (load_traffic hv s).silent
    rcases p.ofManifest_traffic access (.str url) s with hd | ⟨h, resolved, hh, hr, hd⟩
    · exact .inl (hd.trans hl)
    · exact .inr ⟨url, h, resolved, hurl, hh, hr, hd.silent hl⟩

/-! ### Searches -/

/-- The search gets as far as this field. -/
def Reaches (p : Page) (access : Access) (s : Session) (source : FormatSource) : Prop :=
  ∃ t, Passed p access source.earlier s t

lemma formats_eq_search_append (p : Page) (access : Access) (s : Session) :
    p.formats access s =
      p.search access (FormatSource.manifest.earlier ++ [.manifest, .streamMap]) s :=
  formats_eq_search s

/-- Nothing more is sent after the attempt at the manifest. -/
lemma search_manifest_traffic (p : Page) (access : Access) (s : Session) :
    (p.attempt access .manifest s).2.SameTraffic
      (p.search access [.manifest, .streamMap] s).2 := by
  refine Run.Local.traffic_bind (p.attempt access .manifest) (fun formats => ?_) s
  cases formats with
  | nil => exact search_local p access (by simp)
  | cons format formats => exact .pure _

/-- A search that passed the earlier fields costs what its manifest costs. -/
lemma formats_manifest_traffic {v : Value} (hv : FormatSource.manifest.value? p.arguments = some v)
    (hr : p.Reaches access s .manifest) :
    (p.load access .manifest v s).2.SameTraffic (p.formats access s).2 := by
  obtain ⟨t, ht⟩ := hr
  have hload := (p.load_ignoresReports access .manifest v s t (ht.traffic (by decide))).2
  rw [formats_eq_search_append, ht.search_append]
  exact hload.trans ((load_traffic hv t).trans (p.search_manifest_traffic access t))

/-- A page sends nothing, or gets to its manifest and sends the one request for it. -/
lemma formats_traffic_cases (p : Page) (access : Access) (s : Session) :
    s.Silent (p.formats access s).2 ∨ ∃ url h resolved, p.Reaches access s .manifest ∧
      Members.get (p.info.objectAt "args") FormatSource.manifest.name = .str url ∧
        access.handler = some h ∧
        access.resolver.resolve p.script (.str url) = .ok (.str resolved) ∧
        s.Exchanged h (.get resolved) (p.formats access s).2 := by
  have hm : .manifest ∉ FormatSource.manifest.earlier := by decide
  rw [formats_eq_search_append]
  rcases search_append_cases p access FormatSource.manifest.earlier [.manifest, .streamMap] s with
    ⟨before, source, after, t, hf, hb, -, hs⟩ | ⟨t, ht, hs⟩
  · -- the search ends before the manifest
    rw [hf, List.mem_append, List.mem_cons, not_or, not_or] at hm
    rw [hs]
    exact .inl ((hb.traffic hm.1).trans
      ((p.attempt_local access (Ne.symm hm.2.1)).traffic t)).silent
  · -- the manifest is attempted, and whatever follows only reports
    have hst := (ht.traffic hm).silent
    have hl := (search_manifest_traffic p access t).silent
    rw [hs]
    rcases attempt_manifest_traffic p access t with ha | ⟨url, h, resolved, hurl, hh, hr, ha⟩
    · exact .inl (hst.trans (ha.trans hl))
    · exact .inr ⟨url, h, resolved, ⟨t, ht⟩, hurl, hh, hr, hst.exchanged (ha.silent hl)⟩

/-- A signed address that nobody can resolve is where the search ends. -/
lemma formats_of_signed {url : String} (hr : p.Reaches access s .manifest)
    (ha : access.resolver = .passthrough)
    (hurl : Members.get (p.info.objectAt "args") FormatSource.manifest.name = .str url)
    (hs : Resolver.Signed url) :
    (p.formats access s).1 = .error (.signature Resolver.signedText) ∧
      s.Silent (p.formats access s).2 := by
  obtain ⟨t, ht⟩ := hr
  have hv : FormatSource.manifest.value? p.arguments = some (.str url) :=
    FormatSource.value?_of_str hurl
  have hres : access.resolver.resolve p.script (.str url) =
      .error (.signature Resolver.signedText) := by
    rw [ha, Resolver.passthrough_of_signed hs]
  have hl : p.load access .manifest (.str url) t =
      (.error (.signature Resolver.signedText), p.looked (.str url) t) := by
    rw [load, ofManifest_apply, hres]
  have hat : p.attempt access .manifest t =
      (.error (.signature Resolver.signedText), p.looked (.str url) t) := by
    rw [attempt_of_present hv, Run.bind_of_error hl]
  rw [formats_eq_search_append, ht.search_append, search_of_stop hat (by simp)]
  exact ⟨rfl, (ht.traffic (by decide)).silent.trans ⟨rfl, rfl⟩⟩

/-- **Traffic of a page**, with any settings. At most one request is sent, and only if neither of
the fields before the manifest gives any formats and the address of the manifest was resolved: it
gets what is at the address found. Every response that came is closed, however the search ends.
With a resolver that takes addresses as they are, the address is the one in the arguments and
carries no scrambled signature; with such a signature, the search ends at the manifest without a
request. -/
theorem formats_traffic (p : Page) (access : Access) (s : Session) :
    let run := p.formats access s
    let address := Members.get (p.info.objectAt "args") "dashmpd"
    ∃ sent, run.2.requests = s.requests ++ sent ∧ sent.length ≤ 1 ∧
      (∀ request ∈ sent,
        p.Yieldless access s .adaptive ∧ p.Yieldless access s .playerResponse ∧
          ∃ url resolved, address = .str url ∧
            access.resolver.resolve p.script (.str url) = .ok (.str resolved) ∧
            request = .get resolved ∧
            (access.resolver = .passthrough → resolved = url ∧ ¬ Resolver.Signed url)) ∧
      s.responses.length ≤ run.2.responses.length ∧
      (∀ r ∈ run.2.responses.drop s.responses.length, r.closed = true) ∧
      (access.resolver = .passthrough → p.Reaches access s .manifest →
        ∀ url, address = .str url → Resolver.Signed url →
          run.1 = .error (.signature Resolver.signedText) ∧ sent = []) := by
  intro run address
  have hsigned : access.resolver = .passthrough → p.Reaches access s .manifest →
      ∀ url, address = .str url → Resolver.Signed url →
        run.1 = .error (.signature Resolver.signedText) ∧ run.2.requests = s.requests := by
    intro ha hr url hurl hs
    obtain ⟨he, hq⟩ := formats_of_signed hr ha hurl hs
    exact ⟨he, hq.requests⟩
  rcases formats_traffic_cases p access s with h | ⟨url, handler, resolved, hr, hurl, -, hres, h⟩
  · refine ⟨[], by rw [List.append_nil]; exact h.requests, by simp, by simp, ?_, ?_, ?_⟩
    · exact Nat.le_of_eq (congrArg List.length h.responses).symm
    · rw [h.responses]
      simp
    · exact fun ha hr url hurl hs => ⟨(hsigned ha hr url hurl hs).1, rfl⟩
  · refine ⟨[.get resolved], h.requests, by simp, ?_, ?_, ?_, ?_⟩
    · intro request hq
      obtain rfl := List.mem_singleton.mp hq
      obtain ⟨t, ht⟩ := hr
      have hy := ht.yieldless (by decide)
      refine ⟨hy _ (by decide), hy _ (by decide), url, resolved, hurl, hres, rfl, fun ha => ?_⟩
      rw [ha] at hres
      exact Resolver.eq_of_passthrough hres
    · rw [h.responses]
      exact Reply.length_le_settle _ _
    · rw [h.responses]
      exact Reply.settle_closed _ _
    · intro ha hr url hurl hs
      have hq := (hsigned ha hr url hurl hs).2
      rw [h.requests] at hq
      exact absurd hq (by simp)

/-- A manifest is fetched and its response closed; a scrambled address is not even asked for. -/
theorem formats_traffic_of_manifest :
    let page (url : String) : Page := .ofInfo (.str "abc")
      (.object [("args", .object [("dashmpd", .str url)])]) [("logger", .recorder true)]
    let answer := Handler.answer (Text.Utf8.encode "<MPD/>".toList) none (.object []) (.int 200)
      .null false
    let access : Access := ⟨some (.ofScript [answer]), .passthrough⟩
    let plain := (page "http://x/mpd").formats access {}
    let scrambled := (page "http://x/s/ab/mpd").formats access {}
    plain.2.requests = [.get "http://x/mpd"] ∧ plain.2.responses.length = 1 ∧
      (∀ r ∈ plain.2.responses, r.closed = true) ∧
      Resolver.Signed "http://x/s/ab/mpd" ∧
      scrambled.1 = .error (.signature Resolver.signedText) ∧ scrambled.2.requests = [] := by
  intro page answer access plain scrambled
  have hs : Resolver.Signed "http://x/s/ab/mpd" := (Resolver.isSigned_iff _).mp (by decide)
  have hr : (page "http://x/s/ab/mpd").Reaches access {} .manifest :=
    ⟨{}, .cons rfl (.cons rfl (.nil {}))⟩
  obtain ⟨-, -, -, -, -, hclosed, -⟩ := formats_traffic (page "http://x/mpd") access {}
  obtain ⟨sent, hq, -, -, -, -, hsigned⟩ := formats_traffic (page "http://x/s/ab/mpd") access {}
  obtain ⟨he, rfl⟩ := hsigned rfl hr _ rfl hs
  exact ⟨rfl, rfl, hclosed, hs, he, hq⟩

end Page

end PlayerPage
