import PlayerPage.Proofs.Format.WellFormed
import PlayerPage.Proofs.Page.Precedence

/-!
What is true of every format of a page.

* `Page.formats_eq_ok`: formats come from one field, after attempts that gave nothing.
* `Page.load_wellFormed`: the formats of every field but the manifest are well formed.
  `Page.load_manifest_eq_ok`: those of a manifest are the ones that the document describes.
* `Page.formats_wellFormed`: every format of a page has an address, and is well formed unless it
  comes from a manifest that names no media type for it; `Page.formats_wellFormed_of_manifest` is an
  instance where such a format is given.
-/

namespace PlayerPage

namespace Page

variable {p : Page} {access : Access} {s t : Session} {source : FormatSource} {v : Value}
  {formats : List Format}

/-! ### Where formats come from -/

lemma unrecognized_ne_ok : (p.unrecognized s).1 ≠ .ok formats := by
  intro h
  obtain ⟨_, _, -, hf⟩ := Run.eq_of_bind_ok (Prod.ext h rfl)
  cases hf

/-- Formats come from one field, after attempts that gave nothing. -/
lemma formats_eq_ok (h : (p.formats access s).1 = .ok formats) :
    formats ≠ [] ∧ ∃ source v t, Passed p access source.earlier s t ∧
      source.value? p.arguments = some v ∧ (p.load access source v t).1 = .ok formats := by
  rw [formats_eq_search, ← List.append_nil FormatSource.all] at h
  rcases search_append_cases p access FormatSource.all [] s with
    ⟨before, source, after, t, hf, hp, hne, hs⟩ | ⟨t, -, hs⟩
  · rw [hs] at h
    have hformats : formats ≠ [] := by
      rintro rfl
      exact hne h
    cases hv : source.value? p.arguments with
    | none =>
      rw [attempt_of_absent hv] at hne
      exact absurd rfl hne
    | some v =>
      exact ⟨hformats, source, v, t, FormatSource.eq_earlier hf ▸ hp, hv, load_of_attempt hv h⟩
  · -- no field is left, which is a failure with any settings
    rw [hs] at h
    exact absurd h unrecognized_ne_ok

/-! ### The formats of a field -/

lemma ofListing_wellFormed (schema : ListSchema)
    (h : p.ofListing (schema.listing v) s = (.ok formats, t)) : ∀ f ∈ formats, f.WellFormed := by
  rw [Listing.eq_of_deliver_ok h]
  exact schema.listing_wellFormed v

lemma ofResponse_wellFormed (h : p.ofResponse v s = (.ok formats, t)) :
    ∀ f ∈ formats, f.WellFormed := by
  obtain ⟨response, s₁, -, h⟩ := Run.eq_of_bind_ok h
  obtain ⟨plain, s₂, hp, h⟩ := Run.eq_of_bind_ok h
  obtain ⟨adaptive, s₃, ha, h⟩ := Run.eq_of_bind_ok h
  cases h
  intro f hf
  rcases List.mem_append.mp hf with hf | hf
  · exact ofListing_wellFormed .streaming hp f hf
  · exact ofListing_wellFormed .streaming ha f hf

/-- Every field but the manifest gives well-formed formats only. -/
lemma load_wellFormed (hs : source ≠ .manifest)
    (h : p.load access source v s = (.ok formats, t)) : ∀ f ∈ formats, f.WellFormed := by
  cases source with
  | adaptive => exact ofListing_wellFormed .flat h
  | playerResponse => exact ofResponse_wellFormed h
  | manifest => exact absurd rfl hs
  | streamMap => exact ofListing_wellFormed .streamMap h

/-- The manifest gives the formats of the document that was fetched. -/
lemma load_manifest_eq_ok (h : p.load access .manifest v s = (.ok formats, t)) :
    ∃ address document, access.resolver.resolve p.script v = .ok address ∧
      (p.document access address (p.looked v s)).1 = .ok document ∧
      (Manifest.read document).1.formats = formats ∧ (Manifest.read document).2 = none := by
  rw [load, ofManifest_apply] at h
  cases hr : access.resolver.resolve p.script v with
  | error f =>
    rw [hr] at h
    cases h
  | ok address =>
    rw [hr] at h
    obtain ⟨document, u, hd, hm⟩ := Run.eq_of_bind_ok h
    have hread := eq_of_readManifest_ok hm
    exact ⟨address, document, rfl, by rw [hd], by rw [hread], by rw [hread]⟩

/-- **Formats of a page**, with any settings and collaborators. If formats are given, there are
some, all from the first field that gave any. Each has an address and an integer for its bit rate
and its length, and neither its signature nor the name for it is an empty text. Its content type can
be taken apart, unless the field is the manifest: a format of a manifest has the media type that the
document names for its representation, and if that is none, then the format is given all the
same. -/
theorem formats_wellFormed (p : Page) (access : Access) (s : Session) {formats : List Format}
    (h : (p.formats access s).1 = .ok formats) :
    formats ≠ [] ∧ (∀ f ∈ formats, f.Addressed) ∧
      ∃ source v t, Passed p access source.earlier s t ∧ source.value? p.arguments = some v ∧
        (p.load access source v t).1 = .ok formats ∧
        (source ≠ .manifest → ∀ f ∈ formats, f.WellFormed) ∧
        (source = .manifest → ∃ address document,
          access.resolver.resolve p.script v = .ok address ∧
          (p.document access address (p.looked v t)).1 = .ok document ∧
          (Manifest.read document).1.formats = formats ∧
          ∀ f ∈ formats, ∃ set representation, Manifest.Gives document set representation f ∧
            let named := ContentType.parse? (Manifest.mediaTypeOf set representation).toList
            f.mediaType? = named.map (·.mediaType) ∧ (f.WellFormed ↔ named.isSome = true)) := by
  obtain ⟨hne, source, v, t, hp, hv, hload⟩ := formats_eq_ok h
  have hl : p.load access source v t = (.ok formats, (p.load access source v t).2) :=
    Prod.ext hload rfl
  by_cases hs : source = .manifest
  · subst hs
    obtain ⟨address, document, hr, hd, hf, -⟩ := load_manifest_eq_ok hl
    have hgives : ∀ f ∈ formats,
        ∃ set representation, Manifest.Gives document set representation f := by
      rw [← hf]
      exact fun f => Manifest.exists_gives
    refine ⟨hne, fun f hm => ?_, .manifest, v, t, hp, hv, hload, absurd rfl, fun _ =>
      ⟨address, document, hr, hd, hf, fun f hm => ?_⟩⟩
    · obtain ⟨set, representation, hg⟩ := hgives f hm
      exact hg.addressed
    · obtain ⟨set, representation, hg⟩ := hgives f hm
      exact ⟨set, representation, hg, hg.mediaType?_eq, hg.wellFormed_iff⟩
  · have hwell := load_wellFormed hs hl
    exact ⟨hne, fun f hm => (hwell f hm).toAddressed, source, v, t, hp, hv, hload, fun _ => hwell,
      fun he => absurd he hs⟩

/-- A manifest without media types gives a format whose content type cannot be taken apart. -/
theorem formats_wellFormed_of_manifest :
    let page : Page := .ofInfo (.str "abc")
      (.object [("args", .object [("dashmpd", .str "http://x/mpd")])]) []
    let body := Text.Utf8.encode ("<MPD><AdaptationSet><Representation bandwidth='7'><BaseURL>" ++
      "http://x/clen/10/a</BaseURL></Representation></AdaptationSet></MPD>").toList
    let answer := Http.Handler.answer body none (.object []) (.int 200) .null false
    let access : Access := ⟨some (.ofScript [answer]), .passthrough⟩
    let format : Format :=
      ⟨"; codecs=", 7, 10, "http://x/clen/10/a", none, defaultSignatureKey⟩
    (page.formats access {}).1 = .ok [format] ∧ format.Addressed ∧ format.contentType? = none := by
  intro page body answer access format
  have h : (page.formats access {}).1 = .ok [format] := by
    -- formats can be compared, failures cannot
    have hgiven : (page.formats access {}).1.toOption = some [format] := by
      decide +kernel +zetaReduce
    rcases hr : (page.formats access {}).1 with f | formats <;> rw [hr] at hgiven <;> cases hgiven
    rfl
  obtain ⟨-, haddressed, -⟩ := formats_wellFormed page access {} h
  exact ⟨h, haddressed format (by simp), by decide⟩

end Page

end PlayerPage
