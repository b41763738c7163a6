import PlayerPage.Proofs.Page.Decoded
import PlayerPage.Proofs.Page.Traffic

/-!
Fields of the arguments that hold the empty text, beside fields that are not there at all.

* `Page.Lacks`: a page beside the same page with nothing in one of its fields.
* `Page.Lacks.formats_of_unreached`: the search for formats does not depend on a field that it does
  not reach; `Page.Lacks.formats_of_nothing`: nor on one that is reached and gives nothing, but for
  the look-up and the request that a manifest costs.
* `Page.formats_of_blank`: which fields with the empty text are like absent ones.
  `Page.formats_of_blank_response` is an instance where this is not so.
-/

namespace PlayerPage

open Http

namespace Page

variable {p bare : Page} {access : Access} {s t : Session} {source : FormatSource}

/-! ### A page without one of its fields -/

/-- The pages are those of one video for one caller, with the same script and the same in all fields
but one, in which the second has nothing. -/
structure Lacks (p bare : Page) (source : FormatSource) : Prop where
  extractor : bare.extractor = p.extractor
  videoId : bare.videoId = p.videoId
  script : bare.script = p.script
  absent : source.value? bare.arguments = none
  field : ∀ field ≠ source, Members.get (bare.info.objectAt "args") field.name =
    Members.get (p.info.objectAt "args") field.name

/-- A page lacks the field that was taken out of its arguments. -/
lemma lacks_erase (p : Page) (arguments : Members) (source : FormatSource) :
    (p.withArguments arguments).Lacks (p.withArguments (arguments.erase source.name)) source where
  extractor := rfl
  videoId := rfl
  script := p.script_withArguments _ _
  absent := by
    rw [Page.arguments, objectAt_withArguments, FormatSource.value?_eq_none_iff,
      FormatSource.Absent, Members.get_erase_self]
    simp
  field field hf := by
    rw [objectAt_withArguments, objectAt_withArguments]
    exact Members.get_erase_of_ne _ fun he => hf (FormatSource.name_injective he)

namespace Lacks

variable (h : p.Lacks bare source)
include h

/-- The same is attempted at the other fields. -/
lemma attempt_eq {field : FormatSource} (hf : field ≠ source) :
    bare.attempt access field = p.attempt access field :=
  attempt_congr h.extractor h.videoId h.script (h.field field hf)

/-- The other fields are passed alike. -/
lemma passed {fields : List FormatSource} (ht : Passed p access fields s t)
    (hf : ∀ field ∈ fields, field ≠ source) : Passed bare access fields s t :=
  AgreesUpTo.passed ht fun field hm => h.attempt_eq (hf field hm)

/-- A search that ends before the field does not depend on it. -/
lemma formats_of_unreached (hr : ¬ p.Reaches access s source) :
    bare.formats access s = p.formats access s := by
  obtain ⟨after, ha⟩ := source.exists_all_eq
  rw [formats_eq_search, formats_eq_search, ha]
  rcases search_append_cases p access source.earlier (source :: after) s with
    ⟨before, stop, later, t, hf, hb, hne, hs⟩ | ⟨t, ht, -⟩
  · have hother (field : FormatSource) (hm : field ∈ before ++ stop :: later) : field ≠ source :=
      FormatSource.ne_of_mem_earlier (hf ▸ hm)
    have hpassed : Passed bare access before s t :=
      h.passed hb fun field hm => hother field (by simp [hm])
    have hstop : bare.attempt access stop = p.attempt access stop :=
      h.attempt_eq (hother stop (by simp))
    rw [← hstop] at hne
    rw [hs, hf, List.append_assoc, hpassed.search_append, List.cons_append, ← hstop]
    exact search_of_stop rfl hne _
  · exact absurd ⟨t, ht⟩ hr

/-- A search that passed the earlier fields goes on with the field, or without it. -/
lemma formats_of_reached (ht : Passed p access source.earlier s t) :
    ∃ after, source ∉ after ∧ p.formats access s = p.search access (source :: after) t ∧
      bare.formats access s = bare.search access after t := by
  obtain ⟨after, ha⟩ := source.exists_all_eq
  have hpassed : Passed bare access source.earlier s t :=
    h.passed ht fun field => FormatSource.ne_of_mem_earlier
  have hlater : source ∉ after := by
    have hd := FormatSource.all_nodup
    rw [ha, List.nodup_append] at hd
    exact (List.nodup_cons.mp hd.2.1).1
  refine ⟨after, hlater, ?_, ?_⟩
  · rw [formats_eq_search, ha, ht.search_append]
  · rw [formats_eq_search, ha, hpassed.search_append,
      search_of_passed (attempt_of_absent h.absent t)]

/-- If the field gives nothing, then the search comes to the same without it, and to the same
traffic unless the field is the manifest. -/
lemma formats_of_nothing (hp : p.extractor.reporting.Working)
    (ht : Passed p access source.earlier s t) (hn : (p.attempt access source t).1 = .ok []) :
    SameOutcome p bare (p.formats access s).1 (bare.formats access s).1 ∧
      (source ≠ .manifest → (p.formats access s).2.SameTraffic (bare.formats access s).2) := by
  obtain ⟨after, hlater, hpage, hbare⟩ := h.formats_of_reached ht
  have hp' : bare.extractor.reporting.Working := h.extractor ▸ hp
  have halike : ∀ field ∈ after,
      Run.Alike (p.attempt access field) (bare.attempt access field) := by
    intro field hf
    rw [h.attempt_eq (ne_of_mem_of_not_mem hf hlater)]
    exact (p.attempt_ignoresReports access field).alike
  rcases hat : p.attempt access source t with ⟨outcome, u⟩
  obtain rfl : outcome = .ok [] := by rw [← hn, hat]
  rw [hpage, hbare, search_of_passed hat]
  by_cases hm : source = .manifest
  · -- what the manifest cost is of no account to the fields after it
    have hlocal := (p.search_local access (hm ▸ hlater) u t).1
    exact ⟨hlocal ▸ (search_alike hp hp' halike (.refl t)).1, fun hne => absurd hm hne⟩
  · have htraffic := (p.attempt_local access hm).traffic t
    rw [hat] at htraffic
    obtain ⟨ho, hq⟩ := search_alike hp hp' halike htraffic.symm
    exact ⟨ho, fun _ => hq⟩

/-- Without the manifest nothing is sent for a page, and nothing looked up. -/
lemma traffic_of_reached (hs : source = .manifest) (hr : p.Reaches access s source) :
    s.SameTraffic (bare.formats access s).2 := by
  subst hs
  obtain ⟨t, ht⟩ := hr
  obtain ⟨after, hlater, -, hbare⟩ := h.formats_of_reached ht
  rw [hbare]
  exact (ht.traffic (by decide)).trans ((bare.search_local access hlater).traffic t)

end Lacks

/-! ### The empty text -/

/-- The error about the empty text in place of the response of the player: it is no JSON
document. -/
def misreadBlank (p : Page) : Failure :=
  p.extractor.misread p.videoId Extractor.responseNote (.json "Expecting value" ⟨1, 1⟩ 0)

/-- The empty text lists no formats. -/
lemma load_blank_of_list (hp : p.extractor.reporting.Working)
    (hs : source = .adaptive ∨ source = .streamMap) (s : Session) :
    (p.load access source (.str "") s).1 = .ok [] := by
  rcases hs with rfl | rfl
  · exact Listing.deliver_ok (Listing.ofFlat (.str "")) p.videoId hp s
  · exact Listing.deliver_ok (Listing.ofStreamMap (.str "")) p.videoId hp s

/-- The empty text is no response of the player. -/
lemma load_blank_of_response (p : Page) (access : Access) (s : Session) :
    p.load access .playerResponse (.str "") s = (.error p.misreadBlank, s) := by
  have hread : p.extractor.playerResponse (.str "") p.videoId = .error p.misreadBlank := rfl
  show p.ofResponse (.str "") s = _
  rw [ofResponse, hread]
  exact Run.bind_of_error (Run.ofExcept_apply _ s) _

/-- **Empty fields**, with working settings. A page with the empty text in one of the fields is
compared with the same page without this field.
* A list of texts may be empty or absent: both pages give the same formats or fail with errors of
  the same class, the same ones unless they show the arguments of the player; and both send the same
  requests, get the same responses and look up the same addresses.
* A field that the search does not reach may hold anything.
* Where the search reaches it, the empty text in place of the response of the player is one that
  cannot be parsed, which is the error of the page, and nothing is sent.
* Where the search reaches it, the empty text in place of the address of a manifest is an address
  like any other. It is looked up, and what it is resolved to is asked for. If this fails, or gives
  formats, this is what comes of the page; if it gives none, both pages come to the same, although
  without the field nothing is looked up and nothing sent. -/
theorem formats_of_blank (hp : p.extractor.reporting.Working) (access : Access) (s : Session)
    {arguments : Members} (hblank : Members.get arguments source.name = .str "") :
    let page := p.withArguments arguments
    let bare := p.withArguments (arguments.erase source.name)
    let run := page.formats access s
    let run' := bare.formats access s
    let loaded := page.load access source (.str "") s
    (source = .adaptive ∨ source = .streamMap →
        run.1.mapError Failure.className = run'.1.mapError Failure.className ∧
          SameOutcome page bare run.1 run'.1 ∧ run.2.SameTraffic run'.2) ∧
      (¬ page.Reaches access s source → run' = run) ∧
      (source = .playerResponse → page.Reaches access s source →
        run.1 = .error page.misreadBlank ∧ s.SameTraffic run.2) ∧
      (source = .manifest → page.Reaches access s source →
        (loaded.1 ≠ .ok [] → run.1 = loaded.1) ∧
          (loaded.1 = .ok [] →
            run.1.mapError Failure.className = run'.1.mapError Failure.className ∧
              SameOutcome page bare run.1 run'.1) ∧
          loaded.2.SameTraffic run.2 ∧
          run.2.lookups = s.lookups ++ [(page.script, .str "")] ∧
          (∀ handler address, access.handler = some handler →
            access.resolver.resolve page.script (.str "") = .ok (.str address) →
            s.Exchanged handler (.get address) run.2) ∧
          s.SameTraffic run'.2) := by
  intro page bare run run' loaded
  have hlacks : page.Lacks bare source := p.lacks_erase arguments source
  have hpage : page.extractor.reporting.Working := hp
  have hv : source.value? page.arguments = some (.str "") := by
    rw [Page.arguments, FormatSource.value?_of_str]
    rwa [p.objectAt_withArguments]
  have hattempt (t : Session) :
      (page.attempt access source t).1 = (page.load access source (.str "") t).1 :=
    (attempt_fst hpage source t).trans (share_of_present hv t)
  refine ⟨fun hs => ?_, hlacks.formats_of_unreached, ?_, ?_⟩
  · by_cases hr : page.Reaches access s source
    · obtain ⟨t, ht⟩ := hr
      have hn : (page.attempt access source t).1 = .ok [] := by
        rw [hattempt, load_blank_of_list hpage hs]
      obtain ⟨ho, hq⟩ := hlacks.formats_of_nothing hpage ht hn
      have hm : source ≠ .manifest := by
        rcases hs with rfl | rfl <;> decide
      exact ⟨ho.className, ho, hq hm⟩
    · have hsame : run' = run := hlacks.formats_of_unreached hr
      rw [hsame]
      exact ⟨rfl, .inl rfl, .refl _⟩
  · rintro rfl ⟨t, ht⟩
    have hfails : page.attempt access .playerResponse t = (.error page.misreadBlank, t) := by
      rw [attempt_of_present hv, Run.bind_of_error (load_blank_of_response page access t)]
    have hrun : run = (.error page.misreadBlank, t) := by
      rw [← hfails]
      exact formats_of_passed ht (by simp [hfails])
    rw [hrun]
    exact ⟨rfl, ht.traffic (by decide)⟩
  · rintro rfl hr
    have hcost : loaded.2.SameTraffic run.2 := formats_manifest_traffic hv hr
    have hlookups : loaded.2.lookups = s.lookups ++ [(page.script, .str "")] :=
      page.ofManifest_lookups access (.str "") s
    have hsilent : s.SameTraffic run'.2 := hlacks.traffic_of_reached rfl hr
    obtain ⟨t, ht⟩ := hr
    have hfst : (page.attempt access .manifest t).1 = loaded.1 := by
      rw [hattempt]
      exact (page.load_ignoresReports access .manifest _ s t (ht.traffic (by decide))).1.symm
    refine ⟨fun hne => ?_, fun hn => ?_, hcost, hcost.lookups.trans hlookups,
      fun handler address hh ha => ?_, hsilent⟩
    · rw [← hfst] at hne ⊢
      exact congrArg Prod.fst (formats_of_passed ht hne)
    · have ho := (hlacks.formats_of_nothing hpage ht (hfst.trans hn)).1
      exact ⟨ho.className, ho⟩
    · exact (ofManifest_exchanged hpage hh ha s).silent hcost.silent

/-- An empty list of formats is no hindrance for the next one. -/
theorem formats_of_blank_list :
    let p : Page := .ofInfo (.str "abc") .null [("logger", .recorder true)]
    let arguments : Members := [("adaptive_fmts", .str ""), ("url_encoded_fmt_stream_map",
      .str "quality=medium&type=video/mp4&url=http://x/v?clen=4000%26")]
    let access : Access := ⟨none, .passthrough⟩
    let run := (p.withArguments arguments).formats access {}
    let run' := (p.withArguments (arguments.erase "adaptive_fmts")).formats access {}
    p.extractor.reporting.Working ∧ Members.get arguments "adaptive_fmts" = .str "" ∧
      run.1.mapError Failure.className = run'.1.mapError Failure.className ∧
      run'.1.toOption =
        some [⟨"video/mp4", -5, 4000, "http://x/v?clen=4000&", none, defaultSignatureKey⟩] := by
  intro p arguments access
  have hp : p.extractor.reporting.Working := fun v h => by cases h
  have hblank : Members.get arguments FormatSource.adaptive.name = .str "" := rfl
  have hlist := (formats_of_blank hp access {} hblank).1 (.inl rfl)
  exact ⟨hp, hblank, hlist.1, by decide +kernel +zetaReduce⟩

/-- The empty text in place of the response of the player is an error, whatever stands in the fields
after it; in place of the address of a manifest it is asked for. -/
theorem formats_of_blank_response :
    let p : Page := .ofInfo (.str "abc") .null [("logger", .recorder true)]
    let video : Value := .str "quality=medium&type=video/mp4&url=http://x/v?clen=4000%26"
    let responseMembers : Members :=
      [("player_response", .str ""), ("url_encoded_fmt_stream_map", video)]
    let manifestMembers : Members := [("dashmpd", .str ""), ("url_encoded_fmt_stream_map", video)]
    let answer := Handler.answer (Text.Utf8.encode "<MPD/>".toList) none (.object []) (.int 200)
      .null false
    let access : Access := ⟨some (.ofScript [answer]), .passthrough⟩
    let run (arguments : Members) := (p.withArguments arguments).formats access {}
    p.extractor.reporting.Working ∧
      (run responseMembers).1.mapError Failure.className = .error "ExtractorError" ∧
      (run (responseMembers.erase "player_response")).1.toOption =
        some [⟨"video/mp4", -5, 4000, "http://x/v?clen=4000&", none, defaultSignatureKey⟩] ∧
      (run manifestMembers).2.requests.map (·.url) = [""] ∧
      (run (manifestMembers.erase "dashmpd")).2.requests.map (·.url) = [] := by
  intro p video responseMembers manifestMembers answer access run
  have hp : p.extractor.reporting.Working := fun v h => by cases h
  refine ⟨hp, rfl, ?_, ?_, ?_⟩ <;> decide +kernel +zetaReduce

end Page

end PlayerPage
