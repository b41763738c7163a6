import PlayerPage.Page
import PlayerPage.Proofs.Download.Verdict

/-!
The fields of the player's arguments, one at a time.

* `FormatSource.earlier`: the fields that are tried before one.
* `FormatSource.Absent`, `FormatSource.value?_eq_none_iff`: which fields are not tried at all.
* `Page.load_local`, `Page.load_ignoresReports`: the formats of a field do not depend on what was
  reported, and those of a manifest alone depend on anything that was done before.
* `Page.share`: what a field gives. `Page.Yieldless`: it gives no formats and does not fail.
* `Page.attempt`: the attempt at a field, with its report; `Page.attempt_fst`: with working settings
  it comes to the share of the field.
-/

namespace PlayerPage

/-- A member of an object, where the empty object counts as nothing. -/
lemma Value.member_object (ms : Members) (name : String) :
    (Value.object ms).member name =
      if (Members.get ms name).isVoid then .null else Members.get ms name := by
  have hd : (Value.object ms).descend [.member name] = Members.get ms name := by
    rw [Value.descend, Value.child]
    split
    · next h => exact h.symm
    · rfl
  simp only [Value.member, Value.find, Value.find?, List.findSome?, hd, Value.isOfKind]
  cases (Members.get ms name).isVoid <;> rfl

namespace FormatSource

/-- The fields that are tried before one. -/
def earlier (source : FormatSource) : List FormatSource :=
  all.takeWhile (· != source)

lemma name_injective : Function.Injective name := by
  intro a b h
  cases a <;> cases b <;> first | rfl | simp [name] at h

lemma mem_all (source : FormatSource) : source ∈ all := by
  cases source <;> simp [all]

lemma all_nodup : all.Nodup := by
  decide

/-- No field is tried before itself. -/
lemma ne_of_mem_earlier {field source : FormatSource} (h : field ∈ source.earlier) :
    field ≠ source := by
  simpa using List.all_eq_true.mp List.all_takeWhile field h

lemma mem_manifest_earlier {source : FormatSource} :
    source ∈ manifest.earlier ↔ source = adaptive ∨ source = playerResponse := by
  cases source <;> decide

/-- What stands before a field are the earlier fields. -/
lemma eq_earlier {source : FormatSource} {before after : List FormatSource}
    (h : all = before ++ source :: after) : before = source.earlier := by
  have hne : ∀ other ∈ before, (other != source) = true := by
    intro other ho
    have hd := all_nodup
    rw [h, List.nodup_append] at hd
    simpa using hd.2.2 other ho source (by simp)
  rw [earlier, h, List.takeWhile_append_of_pos hne, List.takeWhile_cons_of_neg (by simp),
    List.append_nil]

/-- The fields from one on, after the earlier ones. -/
lemma exists_all_eq (source : FormatSource) :
    ∃ after, all = source.earlier ++ source :: after := by
  obtain ⟨before, after, h⟩ := List.append_of_mem source.mem_all
  exact ⟨after, by rw [h, eq_earlier h]⟩

/-- There is nothing in the field that could hold formats: no text and, for the response of the
player, no object with members. -/
def Absent (source : FormatSource) (arguments : Members) : Prop :=
  (∀ s, Members.get arguments source.name ≠ .str s) ∧
    (source = .playerResponse → ∀ ms, Members.get arguments source.name = .object ms → ms = [])

/-- The fields that are not tried are the absent ones. -/
lemma value?_eq_none_iff (source : FormatSource) (arguments : Members) :
    source.value? (.object arguments) = none ↔ source.Absent arguments := by
  unfold value?
  rw [Value.member_object, Absent]
  cases Members.get arguments source.name with
  | str s => simp [Value.isVoid]
  | object ms =>
    cases source <;> cases ms <;> simp [Value.isVoid]
  | null | bool | int | float | bytes | list | tuple => simp [Value.isVoid]

/-- What a field holds for formats is said by its member alone. -/
lemma value?_congr {source : FormatSource} {arguments arguments' : Members}
    (h : Members.get arguments' source.name = Members.get arguments source.name) :
    source.value? (.object arguments') = source.value? (.object arguments) := by
  unfold value?
  rw [Value.member_object, Value.member_object, h]

/-- A text in a field is what it holds for formats. -/
lemma value?_of_str {source : FormatSource} {arguments : Members} {s : String}
    (h : Members.get arguments source.name = .str s) :
    source.value? (.object arguments) = some (.str s) := by
  unfold value?
  rw [Value.member_object, h]
  rfl

/-- An object with members in the response of the player is what it holds for formats. -/
lemma value?_of_object {arguments ms : Members} (hne : ms ≠ [])
    (h : Members.get arguments playerResponse.name = .object ms) :
    playerResponse.value? (.object arguments) = some (.object ms) := by
  unfold value?
  rw [Value.member_object, h]
  simp [Value.isVoid, hne]

/-- Only the response of the player can be more than a text. -/
lemma value?_eq_str {source : FormatSource} (hs : source ≠ .playerResponse) {arguments : Members}
    {v : Value} (h : source.value? (.object arguments) = some v) :
    ∃ s, v = .str s ∧ Members.get arguments source.name = .str s := by
  unfold value? at h
  rw [Value.member_object] at h
  cases hg : Members.get arguments source.name with
  | str s =>
    rw [hg] at h
    exact ⟨s, (Option.some.inj h).symm, rfl⟩
  | object ms => cases source <;> cases ms <;> simp [hg, Value.isVoid] at h hs
  | null | bool | int | float | bytes | list | tuple => simp [hg, Value.isVoid] at h

end FormatSource

namespace Page

variable (p : Page) (access : Access)

/-! ### The formats of a field -/

lemma ofListing_local (listing : Listing) : Run.Local (p.ofListing listing) :=
  listing.deliver_local p.extractor p.videoId

lemma ofResponse_local (response : Value) : Run.Local (p.ofResponse response) :=
  .bind (.ofExcept _) fun _ => .bind (p.ofListing_local _) fun _ =>
    .bind (p.ofListing_local _) fun _ => .pure _

/-- Only a manifest is fetched. -/
lemma load_local {source : FormatSource} (h : source ≠ .manifest) (v : Value) :
    Run.Local (p.load access source v) := by
  cases source with
  | adaptive | streamMap => exact p.ofListing_local _
  | playerResponse => exact p.ofResponse_local v
  | manifest => exact absurd rfl h

lemma readManifest_local (e : Extractor) (document : Xml.Element) (videoId : Value) :
    Run.Local (readManifest (some e) document videoId) := by
  rw [readManifest]
  rcases Manifest.read document with ⟨listing, flaw⟩
  refine .bind (listing.deliver_local e videoId) fun formats => ?_
  cases flaw with
  | none => exact .pure formats
  | some flaw => exact .throw _

/-- An exchange depends on the requests and responses before it, and on no report. -/
lemma exchange_ignoresReports (e : Extractor) (videoId note : Value) (handler : Http.Handler)
    (request : Http.Request) : Run.IgnoresReports (e.exchange videoId note handler request) := by
  intro s t h
  rw [Extractor.exchange_apply, Extractor.exchange_apply, h.requests, h.responses]
  exact ⟨rfl, rfl, rfl, h.lookups⟩

lemma obtain_ignoresReports (e : Extractor) (videoId note : Value) (handler : Option Http.Handler)
    (url : Value) : Run.IgnoresReports (e.obtain videoId note handler url) := by
  cases handler with
  | none => exact (Run.Local.throw _).ignoresReports
  | some handler =>
    exact .bind (Run.Local.ofFault _).ignoresReports fun request =>
      exchange_ignoresReports e videoId note handler request

lemma downloadXml_ignoresReports (e : Extractor) (handler : Option Http.Handler)
    (url videoId announcement note : Value) :
    Run.IgnoresReports (e.downloadXml handler url videoId announcement note) := by
  rw [Extractor.downloadXml_eq]
  exact .bind (e.announce_local videoId announcement).ignoresReports fun _ =>
    obtain_ignoresReports e videoId note handler url

/-- The session after the resolver was asked for an address. -/
def looked (p : Page) (url : Value) (s : Session) : Session :=
  { s with lookups := s.lookups ++ [(p.script, url)] }

lemma resolve_apply (resolver : Resolver) (url : Value) (s : Session) :
    p.resolve resolver url s = (resolver.resolve p.script url, p.looked url s) :=
  Run.ofExcept_apply _ (p.looked url s)

lemma resolve_ignoresReports (resolver : Resolver) (url : Value) :
    Run.IgnoresReports (p.resolve resolver url) := by
  intro s t h
  rw [resolve_apply, resolve_apply]
  exact ⟨rfl, h.requests, h.responses, congrArg (· ++ [(p.script, url)]) h.lookups⟩

/-- The manifest at an address that can be fetched. -/
def document (p : Page) (access : Access) (address : Value) : Run Xml.Element :=
  p.extractor.downloadXml access.handler address p.videoId
    (.str "Downloading DASH manifest") (.str "Failed to download DASH manifest")

lemma ofManifest_eq (url : Value) :
    p.ofManifest access url = p.resolve access.resolver url >>= fun address =>
      p.document access address >>= fun document =>
        readManifest (some p.extractor) document p.videoId := rfl

/-- The formats of a manifest are asked for once the resolver was. -/
lemma ofManifest_apply (url : Value) (s : Session) :
    p.ofManifest access url s = match access.resolver.resolve p.script url with
      | .ok address =>
        (p.document access address >>= fun document =>
          readManifest (some p.extractor) document p.videoId) (p.looked url s)
      | .error f => (.error f, p.looked url s) := by
  rw [ofManifest_eq, Run.bind_apply, resolve_apply]
  cases access.resolver.resolve p.script url <;> rfl

lemma ofManifest_ignoresReports (url : Value) : Run.IgnoresReports (p.ofManifest access url) := by
  rw [ofManifest_eq]
  refine .bind (p.resolve_ignoresReports _ _) fun address => ?_
  have hd : Run.IgnoresReports (p.document access address) :=
    downloadXml_ignoresReports _ _ _ _ _ _
  exact hd.bind fun document =>
    (readManifest_local p.extractor document p.videoId).ignoresReports

/-- The formats of a field are the same whatever was reported before. -/
lemma load_ignoresReports (source : FormatSource) (v : Value) :
    Run.IgnoresReports (p.load access source v) := by
  by_cases hs : source = .manifest
  · subst hs
    exact p.ofManifest_ignoresReports access v
  · exact (p.load_local access hs v).ignoresReports

/-! ### Shares -/

/-- What a field gives in a session: nothing if there is nothing in it. -/
def share (source : FormatSource) (s : Session) : Except Failure (List Format) :=
  match source.value? p.arguments with
  | none => .ok []
  | some v => (p.load access source v s).1

/-- The field gives no formats, and does not fail: it is absent, or what it holds describes none. -/
def Yieldless (s : Session) (source : FormatSource) : Prop :=
  source.Absent (p.info.objectAt "args") ∨
    ∃ v, source.value? p.arguments = some v ∧ (p.load access source v s).1 = .ok []

section

variable {p access} {s t : Session} {source : FormatSource}

lemma share_of_absent (hv : source.value? p.arguments = none) (s : Session) :
    p.share access source s = .ok [] := by
  unfold share
  rw [hv]

lemma share_of_present {v : Value} (hv : source.value? p.arguments = some v) (s : Session) :
    p.share access source s = (p.load access source v s).1 := by
  unfold share
  rw [hv]

lemma share_of_ne (h : source ≠ .manifest) (s t : Session) :
    p.share access source t = p.share access source s := by
  cases hv : source.value? p.arguments with
  | none => rw [share_of_absent hv, share_of_absent hv]
  | some v =>
    rw [share_of_present hv, share_of_present hv]
    exact (p.load_local access h v t s).1

lemma share_of_traffic (h : s.SameTraffic t) (source : FormatSource) :
    p.share access source t = p.share access source s := by
  cases hv : source.value? p.arguments with
  | none => rw [share_of_absent hv, share_of_absent hv]
  | some v =>
    rw [share_of_present hv, share_of_present hv]
    exact (p.load_ignoresReports access source v s t h).1.symm

lemma yieldless_iff : p.Yieldless access s source ↔ p.share access source s = .ok [] := by
  unfold Yieldless share
  rw [← FormatSource.value?_eq_none_iff]
  show source.value? p.arguments = none ∨ _ ↔ _
  cases source.value? p.arguments <;> simp

end

/-! ### Attempts -/

/-- The report that a field gave nothing, if so. -/
def remark (source : FormatSource) (formats : List Format) : Run Unit :=
  if formats.isEmpty then
    p.extractor.tell p.videoId (.debug ("No formats found in " ++ source.name))
  else pure ()

/-- The attempt at a field: what it gives, which is reported if it is nothing although the field
is there. -/
def attempt (source : FormatSource) : Run (List Format) :=
  match source.value? p.arguments with
  | none => pure []
  | some v => do
    let formats ← p.load access source v
    p.remark source formats
    pure formats

variable {p access} in
lemma attempt_of_absent {source : FormatSource} (hv : source.value? p.arguments = none)
    (s : Session) : p.attempt access source s = (.ok [], s) := by
  unfold attempt
  rw [hv]
  rfl

variable {p access} in
lemma attempt_of_present {source : FormatSource} {v : Value}
    (hv : source.value? p.arguments = some v) :
    p.attempt access source = p.load access source v >>= fun formats =>
      p.remark source formats >>= fun _ => pure formats := by
  unfold attempt
  rw [hv]

lemma remark_local (source : FormatSource) (formats : List Format) :
    Run.Local (p.remark source formats) := by
  rw [remark]
  by_cases hf : formats.isEmpty
  · rw [if_pos hf]
    exact Run.tell_local _ _
  · rw [if_neg hf]
    exact .pure ()

lemma attempt_local {source : FormatSource} (h : source ≠ .manifest) :
    Run.Local (p.attempt access source) := by
  cases hv : source.value? p.arguments with
  | none =>
    intro s t
    rw [attempt_of_absent hv, attempt_of_absent hv]
    exact ⟨rfl, .refl s⟩
  | some v =>
    rw [attempt_of_present hv]
    exact .bind (p.load_local access h v) fun formats =>
      .bind (p.remark_local source formats) fun _ => .pure formats

/-- What is attempted at a field is the same whatever was reported before. -/
lemma attempt_ignoresReports (source : FormatSource) :
    Run.IgnoresReports (p.attempt access source) := by
  cases hv : source.value? p.arguments with
  | none =>
    intro s t h
    rw [attempt_of_absent hv, attempt_of_absent hv]
    exact ⟨rfl, h⟩
  | some v =>
    rw [attempt_of_present hv]
    exact .bind (p.load_ignoresReports access source v) fun formats =>
      .bind (p.remark_local source formats).ignoresReports fun _ =>
        (Run.Local.pure formats).ignoresReports

variable {p access}

lemma remark_ok (hp : p.extractor.reporting.Working) (source : FormatSource)
    (formats : List Format) (s : Session) : (p.remark source formats s).1 = .ok () := by
  rw [remark]
  by_cases hf : formats.isEmpty
  · rw [if_pos hf]
    exact Run.tell_ok hp _ s
  · rw [if_neg hf]
    rfl

/-- With working settings an attempt comes to the share of the field. -/
lemma attempt_fst (hp : p.extractor.reporting.Working) (source : FormatSource) (s : Session) :
    (p.attempt access source s).1 = p.share access source s := by
  cases hv : source.value? p.arguments with
  | none => rw [attempt_of_absent hv, share_of_absent hv]
  | some v =>
    rw [attempt_of_present hv, share_of_present hv]
    rcases hl : p.load access source v s with ⟨f | formats, t⟩
    · rw [Run.bind_of_error hl]
    · rw [Run.bind_of_ok hl, Run.bind_of_fst (remark_ok hp source formats t)]
      rfl

/-- An attempt that came to formats, or to none, gives what the field holds. -/
lemma load_of_attempt {source : FormatSource} {v : Value} {s : Session} {formats : List Format}
    (hv : source.value? p.arguments = some v) (h : (p.attempt access source s).1 = .ok formats) :
    (p.load access source v s).1 = .ok formats := by
  rw [attempt_of_present hv] at h
  obtain ⟨loaded, t, hl, hr⟩ := Run.eq_of_bind_ok (Prod.ext h rfl)
  obtain ⟨-, u, -, hf⟩ := Run.eq_of_bind_ok hr
  cases hf
  rw [hl]

/-- An attempt that gave nothing had nothing to report but this. -/
lemma share_of_attempt {source : FormatSource} {s : Session}
    (h : (p.attempt access source s).1 = .ok []) : p.share access source s = .ok [] := by
  cases hv : source.value? p.arguments with
  | none => exact share_of_absent hv s
  | some v => exact (share_of_present hv s).trans (load_of_attempt hv h)

variable (p) in
lemma unrecognized_local : Run.Local (p.unrecognized : Run (List Format)) :=
  .bind (Run.tell_local _ _) fun _ => .throw _

/-- With working settings it is an error of the extraction that no field gives any formats. -/
lemma unrecognized_fst (hp : p.extractor.reporting.Working) (s : Session) :
    ((p.unrecognized : Run (List Format)) s).1 =
      .error (.unrecognized p.arguments p.videoId p.extractor.nameValue) := by
  rw [unrecognized, Run.bind_of_fst (Extractor.tell_ok p.videoId hp _ s)]
  rfl

end Page

end PlayerPage
