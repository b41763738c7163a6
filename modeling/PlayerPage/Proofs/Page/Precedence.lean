import PlayerPage.Proofs.Lookup
import PlayerPage.Proofs.Page.Search

/-!
Which field gives the formats of a page.

* `Page.Undisturbed`: what the fields that are left give is not changed by what was done so far;
  `Page.exists_passed`, `Page.Passed.share_eq`: a search passes exactly the fields that give nothing
  at its start.
* `Page.StopsAt`: a field decides what the formats are. `Page.AgreesUpTo`: two pages that may differ
  in all that is never looked at.
* `Page.formats_precedence`: one field gives all formats, or fails, whatever stands elsewhere.
-/

namespace PlayerPage

/-- Of two fields one is tried before the other. -/
lemma FormatSource.eq_or_earlier (a b : FormatSource) :
    a = b ∨ a ∈ b.earlier ∨ b ∈ a.earlier := by
  cases a <;> cases b <;> decide

namespace Page

variable {p p' : Page} {access : Access} {s t u : Session} {source : FormatSource}
  {fields rest : List FormatSource} {outcome : Except Failure (List Format)}

/-! ### What was done so far -/

/-- Nothing was sent since the session `s`, or no manifest is left to be fetched. -/
def Undisturbed (s t : Session) (fields : List FormatSource) : Prop :=
  s.SameTraffic t ∨ .manifest ∉ fields

namespace Undisturbed

lemma share_eq (h : Undisturbed s t (source :: rest)) :
    p.share access source t = p.share access source s := by
  rcases h with h | h
  · exact share_of_traffic h source
  · exact share_of_ne (fun he => h (by simp [he])) s t

/-- An attempt at the first field leaves the others as they are. -/
lemma tail (h : Undisturbed s t (source :: rest)) (hn : (source :: rest).Nodup)
    (ha : p.attempt access source t = (outcome, u)) : Undisturbed s u rest := by
  rcases h with h | h
  · by_cases hs : source = .manifest
    -- the manifest is tried once, so that none is left after it
    · exact .inr (hs ▸ (List.nodup_cons.mp hn).1)
    · have ht := (p.attempt_local access hs).traffic t
      rw [ha] at ht
      exact .inl (h.trans ht)
  · exact .inr fun hm => h (List.mem_cons_of_mem _ hm)

end Undisturbed

lemma Passed.undisturbed (hp : Passed p access fields t u) (h : Undisturbed s t (fields ++ rest))
    (hn : (fields ++ rest).Nodup) : Undisturbed s u rest := by
  induction hp with
  | nil t => exact h
  | cons head _ ih => exact ih (h.tail hn head) (List.nodup_cons.mp hn).2

/-- The fields that were passed give nothing. -/
lemma Passed.share_eq (hp : p.extractor.reporting.Working) (h : Passed p access fields t u)
    (hu : Undisturbed s t fields) (hn : fields.Nodup) :
    ∀ source ∈ fields, p.share access source s = .ok [] := by
  induction h with
  | nil t => simp
  | @cons source rest t t' u head _ ih =>
    intro field hf
    rcases List.mem_cons.mp hf with rfl | hf
    · rw [← hu.share_eq, ← attempt_fst hp, head]
    · exact ih (hu.tail hn head) (List.nodup_cons.mp hn).2 field hf

/-- Fields that give nothing are passed. -/
lemma exists_passed (hp : p.extractor.reporting.Working)
    (hf : ∀ source ∈ fields, p.share access source s = .ok []) (hu : Undisturbed s t fields)
    (hn : fields.Nodup) : ∃ u, Passed p access fields t u := by
  induction fields generalizing t with
  | nil => exact ⟨t, .nil t⟩
  | cons source rest ih =>
    have ho : (p.attempt access source t).1 = .ok [] := by
      rw [attempt_fst hp, hu.share_eq, hf source (by simp)]
    rcases ha : p.attempt access source t with ⟨o, t'⟩
    rw [ha] at ho
    subst ho
    obtain ⟨u, hr⟩ := ih (fun field h => hf field (by simp [h])) (hu.tail hn ha)
      (List.nodup_cons.mp hn).2
    exact ⟨u, .cons ha hr⟩

/-! ### The field that decides -/

/-- The field decides what comes of the search for formats: no earlier one gives any, and this one
is there and gives some, or fails. -/
structure StopsAt (p : Page) (access : Access) (s : Session) (source : FormatSource)
    (outcome : Except Failure (List Format)) : Prop where
  earlier : ∀ field ∈ source.earlier, p.Yieldless access s field
  here : ∃ v, source.value? p.arguments = some v ∧ (p.load access source v s).1 = outcome
  decided : outcome ≠ .ok []

/-- The pages are those of one video for one caller, with the same script and the same in the
fields up to this one. The arguments may differ in the later fields, in everything that is no such
field, and in the order of their members. -/
structure AgreesUpTo (p p' : Page) (source : FormatSource) : Prop where
  extractor : p'.extractor = p.extractor
  videoId : p'.videoId = p.videoId
  script : p'.script = p.script
  field : ∀ field ∈ source.earlier ++ [source],
    Members.get (p'.info.objectAt "args") field.name =
      Members.get (p.info.objectAt "args") field.name

lemma StopsAt.share_eq (h : p.StopsAt access s source outcome) :
    p.share access source s = outcome := by
  obtain ⟨v, hv, ho⟩ := h.here
  exact (share_of_present hv s).trans ho

/-- At most one field decides. -/
lemma StopsAt.unique {source' : FormatSource} {outcome' : Except Failure (List Format)}
    (h : p.StopsAt access s source outcome) (h' : p.StopsAt access s source' outcome') :
    source = source' := by
  rcases FormatSource.eq_or_earlier source source' with he | he | he
  · exact he
  · have hy := yieldless_iff.mp (h'.earlier source he)
    rw [h.share_eq] at hy
    exact absurd hy h.decided
  · have hy := yieldless_iff.mp (h.earlier source' he)
    rw [h'.share_eq] at hy
    exact absurd hy h'.decided

/-- With working settings, what comes of a page is decided by a field, unless none gives any
formats. -/
lemma formats_cases (hp : p.extractor.reporting.Working) (access : Access) (s : Session) :
    (∃ source, p.StopsAt access s source (p.formats access s).1) ∨
      (∀ source, p.Yieldless access s source) ∧ (p.formats access s).1 =
        .error (.unrecognized p.arguments p.videoId p.extractor.nameValue) := by
  have hu (fields : List FormatSource) : Undisturbed s s fields := .inl (.refl s)
  -- what a field gives when it is reached is what it gives at the start
  rw [formats_eq_search, ← List.append_nil FormatSource.all]
  rcases search_append_cases p access FormatSource.all [] s with
    ⟨before, source, after, t, hf, hb, hne, hs⟩ | ⟨t, ha, hs⟩
  · have hn := FormatSource.all_nodup
    rw [hf] at hn
    have hshare : p.share access source t = p.share access source s :=
      (hb.undisturbed (hu _) hn).share_eq
    rw [hs, attempt_fst hp, hshare]
    rw [attempt_fst hp, hshare] at hne
    refine .inl ⟨source, fun field h => yieldless_iff.mpr ?_, ?_, hne⟩
    · rw [← FormatSource.eq_earlier hf] at h
      exact hb.share_eq hp (hu _) (List.nodup_append.mp hn).1 field h
    · cases hv : source.value? p.arguments with
      | none => exact absurd (share_of_absent hv s) hne
      | some v => exact ⟨v, rfl, (share_of_present hv s).symm⟩
  · refine .inr ⟨fun source => yieldless_iff.mpr ?_, ?_⟩
    · exact ha.share_eq hp (hu _) FormatSource.all_nodup source source.mem_all
    · rw [hs]
      exact unrecognized_fst hp t

/-- A search that passed the earlier fields ends with the attempt at a field that does not give
nothing. -/
lemma formats_of_passed (h : Passed p access source.earlier s t)
    (hne : (p.attempt access source t).1 ≠ .ok []) :
    p.formats access s = p.attempt access source t := by
  obtain ⟨after, ha⟩ := source.exists_all_eq
  rw [formats_eq_search, ha, h.search_append]
  exact search_of_stop rfl hne after

/-- The field that decides is reached, and gives then what it gave at the start. -/
lemma StopsAt.passed (h : p.StopsAt access s source outcome)
    (hp : p.extractor.reporting.Working) :
    ∃ t, Passed p access source.earlier s t ∧ (p.attempt access source t).1 = outcome := by
  obtain ⟨after, ha⟩ := source.exists_all_eq
  have hn := FormatSource.all_nodup
  rw [ha] at hn
  have hu (fields : List FormatSource) : Undisturbed s s fields := .inl (.refl s)
  obtain ⟨t, ht⟩ := exists_passed hp (fun field hf => yieldless_iff.mp (h.earlier field hf)) (hu _)
    (List.nodup_append.mp hn).1
  refine ⟨t, ht, ?_⟩
  rw [attempt_fst hp, (ht.undisturbed (hu _) hn).share_eq, h.share_eq]

/-- What the field that decides gives is what comes of the page. -/
lemma StopsAt.formats_fst (h : p.StopsAt access s source outcome)
    (hp : p.extractor.reporting.Working) : (p.formats access s).1 = outcome := by
  obtain ⟨t, ht, ho⟩ := h.passed hp
  rw [formats_of_passed ht (by rw [ho]; exact h.decided), ho]

/-! ### What is never looked at -/

lemma load_congr (he : p'.extractor = p.extractor) (hv : p'.videoId = p.videoId)
    (hs : p'.script = p.script) (access : Access) (source : FormatSource) (v : Value) :
    p'.load access source v = p.load access source v := by
  cases source <;> simp only [load, ofListing, ofResponse, ofManifest, resolve, he, hv, hs]

/-- The same is attempted at a field in which the pages agree. -/
lemma attempt_congr (he : p'.extractor = p.extractor) (hv : p'.videoId = p.videoId)
    (hs : p'.script = p.script) {field : FormatSource}
    (hf : Members.get (p'.info.objectAt "args") field.name =
      Members.get (p.info.objectAt "args") field.name) :
    p'.attempt access field = p.attempt access field := by
  have hvalue : field.value? p'.arguments = field.value? p.arguments :=
    FormatSource.value?_congr hf
  cases hv' : field.value? p.arguments with
  | none =>
    rw [hv'] at hvalue
    funext s
    rw [attempt_of_absent hvalue, attempt_of_absent hv']
  | some v =>
    rw [hv'] at hvalue
    rw [attempt_of_present hvalue, attempt_of_present hv', load_congr he hv hs]
    simp only [remark, he, hv]

namespace AgreesUpTo

/-- The same is attempted at the fields in which the pages agree. -/
lemma attempt_eq (h : p.AgreesUpTo p' source) {field : FormatSource}
    (hf : field ∈ source.earlier ++ [source]) :
    p'.attempt access field = p.attempt access field :=
  attempt_congr h.extractor h.videoId h.script (h.field field hf)

/-- Fields in which the pages agree are passed alike. -/
lemma passed (hp : Passed p access fields s t)
    (h : ∀ field ∈ fields, p'.attempt access field = p.attempt access field) :
    Passed p' access fields s t := by
  induction hp with
  | nil s => exact .nil s
  | @cons source rest s t u head _ ih =>
    refine .cons ?_ (ih fun field hf => h field (by simp [hf]))
    rw [h source (by simp), head]

/-- A page agrees with itself with the members of its arguments in another order. -/
lemma of_perm (p : Page) (info : Value) (hs : p.script = { p with info }.script)
    (h : (info.objectAt "args").Perm (p.info.objectAt "args"))
    (hd : ((info.objectAt "args").map Prod.fst).Nodup) (source : FormatSource) :
    p.AgreesUpTo { p with info } source :=
  ⟨rfl, rfl, hs.symm, fun _ _ => Members.get_of_perm h hd _⟩

end AgreesUpTo

/-- The formats of the response of the player are those of its two lists, one after the other. -/
lemma load_playerResponse (hp : p.extractor.reporting.Working) (access : Access) (v : Value)
    (s : Session) :
    (p.load access .playerResponse v s).1 =
      (p.extractor.playerResponse v p.videoId).map fun response =>
        let data := response.objectAt "streamingData"
        (Listing.ofStreaming (Members.get data "formats")).formats ++
          (Listing.ofStreaming (Members.get data "adaptiveFormats")).formats := by
  show (p.ofResponse v s).1 = _
  rw [ofResponse, Run.bind_apply, Run.ofExcept_apply]
  cases p.extractor.playerResponse v p.videoId with
  | error f => rfl
  | ok response =>
    show ((p.ofListing _ >>= fun _ => _) s).1 = _
    rw [ofListing, Run.bind_of_fst (Listing.deliver_ok _ p.videoId hp s), ofListing,
      Run.bind_of_fst (Listing.deliver_ok _ p.videoId hp _)]
    rfl

/-- **Precedence of the fields**, with working settings. If a page gives formats, there are some,
and exactly one field decides on them: its formats are all there are, and no earlier field gives
any; those of the response of the player are those of its two lists. If the page fails, so does the
one field that decides, or no field gives any formats. And whatever stands in the later fields and
in the rest of the arguments, and in whichever order, what comes of the page, the requests, the
look-ups and all reports stay the same. -/
theorem formats_precedence (hp : p.extractor.reporting.Working) (access : Access) (s : Session) :
    let run := p.formats access s
    let unrecognized : Except Failure (List Format) :=
      .error (.unrecognized p.arguments p.videoId p.extractor.nameValue)
    (∀ formats, run.1 = .ok formats →
        formats ≠ [] ∧ ∃! source, p.StopsAt access s source (.ok formats)) ∧
      (∀ v, (p.load access .playerResponse v s).1 =
        (p.extractor.playerResponse v p.videoId).map fun response =>
          let data := response.objectAt "streamingData"
          (Listing.ofStreaming (Members.get data "formats")).formats ++
            (Listing.ofStreaming (Members.get data "adaptiveFormats")).formats) ∧
      (∀ f, run.1 = .error f → (∃! source, p.StopsAt access s source (.error f)) ∨
        (∀ source, p.Yieldless access s source) ∧ run.1 = unrecognized) ∧
      ((∀ source, p.Yieldless access s source) → run.1 = unrecognized) ∧
      ∀ source outcome, p.StopsAt access s source outcome →
        run.1 = outcome ∧ ∀ p', p.AgreesUpTo p' source → p'.formats access s = run := by
  intro run unrecognized
  have hcases := formats_cases hp access s
  have hunique {outcome} (source) (h : p.StopsAt access s source outcome) :
      ∃! source, p.StopsAt access s source outcome :=
    ⟨source, h, fun _ h' => h'.unique h⟩
  refine ⟨fun formats h => ?_, (load_playerResponse hp access · s), fun f h => ?_, fun h => ?_,
    fun source outcome h => ?_⟩
  · rcases hcases with ⟨source, hs⟩ | ⟨-, hr⟩
    · rw [h] at hs
      exact ⟨fun he => hs.decided (by rw [he]), hunique source hs⟩
    · rw [h] at hr
      cases hr
  · rcases hcases with ⟨source, hs⟩ | hr
    · rw [h] at hs
      exact .inl (hunique source hs)
    · exact .inr hr
  · rcases hcases with ⟨source, hs⟩ | ⟨-, hr⟩
    · have hy := yieldless_iff.mp (h source)
      rw [hs.share_eq] at hy
      exact absurd hy hs.decided
    · exact hr
  · refine ⟨h.formats_fst hp, fun p' ha => ?_⟩
    obtain ⟨t, ht, ho⟩ := h.passed hp
    have hne : (p.attempt access source t).1 ≠ .ok [] := by
      rw [ho]
      exact h.decided
    have hrun : run = p.attempt access source t := formats_of_passed ht hne
    have hsame : p'.attempt access source = p.attempt access source :=
      ha.attempt_eq (by simp)
    have hpassed : Passed p' access source.earlier s t :=
      AgreesUpTo.passed ht fun field hf => ha.attempt_eq (by simp [hf])
    rw [hrun, formats_of_passed hpassed (by rw [hsame]; exact hne), hsame]

/-- The response of the player decides after a field that describes no formats, whatever is said of
a manifest, whatever else is said, and in whichever order. -/
theorem formats_precedence_of_response :
    let format : Value := .object [("mimeType", .str "audio/webm"), ("bitrate", .int 7),
      ("contentLength", .str "10"), ("url", .str "http://x/a")]
    let response : Value :=
      .object [("streamingData", .object [("adaptiveFormats", .list [format])])]
    let page (arguments : Members) : Page :=
      .ofInfo (.str "abc") (.object [("args", .object arguments)]) [("logger", .recorder true)]
    let p := page [("adaptive_fmts", .str ""), ("player_response", response)]
    let reordered := page [("player_response", response), ("adaptive_fmts", .str "")]
    let extended := page [("adaptive_fmts", .str ""), ("title", .str "t"),
      ("player_response", response), ("dashmpd", .str "http://x/s/mpd")]
    let access : Access := ⟨none, .passthrough⟩
    let formats : List Format := [⟨"audio/webm", 7, 10, "http://x/a", none, defaultSignatureKey⟩]
    p.extractor.reporting.Working ∧ (p.formats access {}).1 = .ok formats ∧
      (∃! source, p.StopsAt access {} source (.ok formats)) ∧
      reordered.formats access {} = p.formats access {} ∧
      extended.formats access {} = p.formats access {} := by
  intro format response page p reordered extended access formats
  have hp : p.extractor.reporting.Working := fun v h => by cases h
  obtain ⟨hok, -, -, -, hstop⟩ := formats_precedence hp access {}
  have hs : p.StopsAt access {} .playerResponse (.ok formats) := by
    refine ⟨fun field hf => ?_, ⟨response, rfl, rfl⟩, by simp [formats]⟩
    obtain rfl : field = .adaptive := by simpa [FormatSource.earlier, FormatSource.all] using hf
    exact .inr ⟨.str "", rfl, rfl⟩
  have hr : (p.formats access {}).1 = .ok formats := (hstop _ _ hs).1
  refine ⟨hp, hr, (hok formats hr).2, (hstop _ _ hs).2 reordered ?_,
    (hstop _ _ hs).2 extended ?_⟩
  · exact .of_perm p reordered.info rfl (.swap _ _ _) (by decide) _
  · refine ⟨rfl, rfl, rfl, fun field hf => ?_⟩
    rcases (by simpa [FormatSource.earlier, FormatSource.all] using hf :
      field = .adaptive ∨ field = .playerResponse) with rfl | rfl
    · rfl
    · rfl

end Page

end PlayerPage
