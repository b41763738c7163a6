import PlayerPage.Manifest
import PlayerPage.Proofs.Format.Itemwise
import PlayerPage.Proofs.Steps

/-!
What is true of every format that is given.

* `Format.Addressed`: a format has an address, and its signature and the name for it are no empty
  texts. `Format.WellFormed`: its content type can be taken apart, too.
* `Format.ofFlatItem_eq_ok`, `Format.ofStreamItem_eq_ok`, `Format.ofStreamingItem_eq_ok`: what a
  description holds that gives a format.
* `Format.ofFlatItem_wellFormed`, `Format.ofStreamItem_wellFormed`,
  `Format.ofStreamingItem_wellFormed`: every schema checks all of this, so that the formats of a
  list are well formed (`ListSchema.listing_wellFormed`).
* `Manifest.Gives`: the representation that a format of a manifest comes from. Such a format has an
  address (`Manifest.Gives.addressed`), but nobody looked at its media type, and it is well formed
  exactly if the one in the manifest is a media type (`Manifest.Gives.wellFormed_iff`).
-/

namespace PlayerPage

namespace Format

/-- A format has an address, and its signature and the name for it are no empty texts. -/
structure Addressed (f : Format) : Prop where
  url : f.url ≠ ""
  signature : f.signature ≠ some ""
  signatureKey : f.signatureKey ≠ ""

/-- A format with a content type that can be taken apart. -/
structure WellFormed (f : Format) : Prop extends f.Addressed where
  contentType : f.contentType?.isSome = true

/-! ### The checks of the schemas -/

section Form

variable {form : List (String × String)} {name s t : String}

lemma requiredText_ne_empty (h : requiredText form name = .ok s) : s ≠ "" := by
  rw [requiredText] at h
  split at h
  · cases h
  · split_ifs at h with hs
    cases h
    simpa using hs

/-- A text that passed the check is a content type. -/
lemma checkedContentType_isSome (h : checkedContentType s = .ok t) :
    (ContentType.parse? t.toList).isSome = true := by
  rw [checkedContentType] at h
  split_ifs at h with hs
  cases h
  exact hs

lemma nonempty?_ne_empty : nonempty? form name ≠ some "" := by
  intro h
  simpa using (Option.filter_eq_some_iff.mp h).2

lemma signatureKeyOf_ne_empty : signatureKeyOf form ≠ "" := by
  rw [signatureKeyOf]
  cases hk : nonempty? form "sp" with
  | none => decide
  | some key =>
    rintro rfl
    exact nonempty?_ne_empty hk

/-- A format with a content type, an address and the signature of a form text. -/
lemma wellFormed_of_form {f : Format} (hc : (ContentType.parse? f.contentType.toList).isSome = true)
    (hu : f.url ≠ "") (hs : f.signature = signatureOf form)
    (hk : f.signatureKey = signatureKeyOf form) : f.WellFormed where
  url := hu
  signature := hs ▸ nonempty?_ne_empty
  signatureKey := hk ▸ signatureKeyOf_ne_empty
  contentType := hc

end Form

variable {f : Format}

/-! ### What a description has to hold -/

/-- What the fields of a form text are that gives a format. -/
lemma ofFlatItem_eq_ok {item : String} (h : ofFlatItem item = .ok f) :
    let form := Form.fields item.toList
    (∃ type, requiredText form "type" = .ok type ∧ checkedContentType type = .ok f.contentType) ∧
      requiredInt form "bitrate" = .ok f.bitrate ∧
      requiredInt form "clen" = .ok f.contentLength ∧ requiredText form "url" = .ok f.url ∧
      f.signature = signatureOf form ∧ f.signatureKey = signatureKeyOf form := by
  rw [ofFlatItem, ofFlatFields] at h
  obtain ⟨type, ht, h⟩ := exists_of_bind_ok h
  obtain ⟨contentType, hc, h⟩ := exists_of_bind_ok h
  obtain ⟨bitrate, hb, h⟩ := exists_of_bind_ok h
  obtain ⟨contentLength, hn, h⟩ := exists_of_bind_ok h
  obtain ⟨url, hu, h⟩ := exists_of_bind_ok h
  cases h
  exact ⟨⟨type, ht, hc⟩, hb, hn, hu, rfl, rfl⟩

/-- What the fields of a form text with a named quality are that gives a format. -/
lemma ofStreamItem_eq_ok {item : String} (h : ofStreamItem item = .ok f) :
    let form := Form.fields item.toList
    (∃ type, requiredText form "type" = .ok type ∧ checkedContentType type = .ok f.contentType) ∧
      f.bitrate = qualityBitrate ((Form.get? form "quality").getD "") ∧
      lengthInUrl? "clen=" "&" f.url = some f.contentLength ∧
      requiredText form "url" = .ok f.url ∧
      f.signature = signatureOf form ∧ f.signatureKey = signatureKeyOf form := by
  rw [ofStreamItem, ofStreamFields] at h
  obtain ⟨url, hu, h⟩ := exists_of_bind_ok h
  split at h
  · cases h
  · next contentLength hn =>
    obtain ⟨type, ht, h⟩ := exists_of_bind_ok h
    obtain ⟨contentType, hc, h⟩ := exists_of_bind_ok h
    cases h
    exact ⟨⟨type, ht, hc⟩, rfl, hn, hu, rfl, rfl⟩

/-- What the members of an object are that gives a format. -/
lemma ofStreamingItem_eq_ok {item : Value} (h : ofStreamingItem item = .ok f) :
    ∃ ms, item = .object ms ∧ memberContentType ms "mimeType" = .ok f.contentType ∧
      memberInt ms "bitrate" = .ok f.bitrate ∧
      memberInt ms "contentLength" = .ok f.contentLength ∧
      (addressOf ms (cipherFields ms)).filter (· != "") = some f.url ∧
      f.signature = signatureOf (cipherFields ms) ∧
      f.signatureKey = signatureKeyOf (cipherFields ms) := by
  cases item with
  | object ms =>
    rw [ofStreamingItem, ofStreamingMembers] at h
    split at h
    · cases h
    · next url hu =>
      obtain ⟨contentType, hc, h⟩ := exists_of_bind_ok h
      obtain ⟨bitrate, hb, h⟩ := exists_of_bind_ok h
      obtain ⟨contentLength, hn, h⟩ := exists_of_bind_ok h
      cases h
      exact ⟨ms, rfl, hc, hb, hn, hu, rfl, rfl⟩
  | null | bool | int | float | str | bytes | list | tuple => cases h

lemma ofFlatItem_wellFormed {item : String} (h : ofFlatItem item = .ok f) : f.WellFormed := by
  obtain ⟨⟨type, -, hc⟩, -, -, hu, hs, hk⟩ := ofFlatItem_eq_ok h
  exact wellFormed_of_form (checkedContentType_isSome hc) (requiredText_ne_empty hu) hs hk

lemma ofStreamItem_wellFormed {item : String} (h : ofStreamItem item = .ok f) : f.WellFormed := by
  obtain ⟨⟨type, -, hc⟩, -, -, hu, hs, hk⟩ := ofStreamItem_eq_ok h
  exact wellFormed_of_form (checkedContentType_isSome hc) (requiredText_ne_empty hu) hs hk

lemma memberContentType_isSome {ms : Members} {name s : String}
    (h : memberContentType ms name = .ok s) : (ContentType.parse? s.toList).isSome = true := by
  rw [memberContentType] at h
  split at h
  · cases h
  · split_ifs at h
    exact checkedContentType_isSome h
  · cases h

lemma ofStreamingItem_wellFormed {item : Value} (h : ofStreamingItem item = .ok f) :
    f.WellFormed := by
  obtain ⟨ms, -, hc, -, -, hu, hs, hk⟩ := ofStreamingItem_eq_ok h
  have hne : f.url ≠ "" := by simpa using (Option.filter_eq_some_iff.mp hu).2
  exact wellFormed_of_form (memberContentType_isSome hc) hne hs hk

end Format

/-! ### Lists -/

namespace ListSchema

lemma rule_wellFormed {schema : ListSchema} {item : Value} {f : Format}
    (h : schema.rule item = .ok f) : f.WellFormed := by
  cases schema with
  | flat =>
    cases item with
    | str s => exact Format.ofFlatItem_wellFormed h
    | null | bool | int | float | bytes | list | tuple | object => cases h
  | streamMap =>
    cases item with
    | str s => exact Format.ofStreamItem_wellFormed h
    | null | bool | int | float | bytes | list | tuple | object => cases h
  | streaming => exact Format.ofStreamingItem_wellFormed h

/-- A format of a list is what the schema makes of an item. -/
lemma exists_rule_ok (schema : ListSchema) {v : Value} {f : Format}
    (h : f ∈ (schema.listing v).formats) : ∃ item ∈ schema.items v, schema.rule item = .ok f := by
  rw [listing_eq_build] at h
  obtain ⟨item, hitem, hf⟩ := List.mem_filterMap.mp h
  exact ⟨item, hitem, eq_ok_of_toOption hf⟩

/-- The formats of a list are well formed, whatever is in it. -/
lemma listing_wellFormed (schema : ListSchema) (v : Value) :
    ∀ f ∈ (schema.listing v).formats, f.WellFormed := by
  intro f hf
  obtain ⟨item, -, hr⟩ := schema.exists_rule_ok hf
  exact rule_wellFormed hr

end ListSchema

/-! ### Manifests -/

/-- The media type of a content type is said by what stands before the first semicolon. -/
lemma ContentType.parse?_append (s t : List Char) :
    (parse? (s ++ ';' :: t)).map (·.mediaType) = (parse? s).map (·.mediaType) := by
  rw [parse?, parse?, Text.pieces_append]
  cases hp : Text.pieces ';' s with
  | nil => exact absurd hp (Text.pieces_ne_nil ';' s)
  | cons first rest =>
    simp only [List.cons_append]
    split_ifs <;> rfl

namespace Manifest

open Xml

variable {document set representation : Element} {f : Format}

lemma url?_ne_empty {url : String} (h : url? representation = some url) : url ≠ "" := by
  rw [url?] at h
  split at h
  · cases h
  · simpa using (Option.filter_eq_some_iff.mp h).2

/-- What a representation is that gives a format. -/
lemma entry_eq_format (h : entry set representation = .format f) :
    url? representation = some f.url ∧ f.contentType = contentTypeOf set representation ∧
      (Value.ofOption (representation.get? "bandwidth")).integer = .ok f.bitrate ∧
      Format.lengthInUrl? "/clen/" "/" f.url = some f.contentLength ∧
      f.signature = none ∧ f.signatureKey = defaultSignatureKey := by
  rw [entry] at h
  split at h
  · cases h
  · next url hu =>
    simp only at h
    split at h
    · cases h
    · next contentLength hn =>
      split at h
      · cases h
      · next bitrate hb =>
        cases h
        exact ⟨hu, rfl, hb, hn, rfl, rfl⟩

/-- The format comes from this representation in a set of the document. -/
structure Gives (document set representation : Element) (f : Format) : Prop where
  mem : (set, representation) ∈ pairs document
  entry : entry set representation = .format f

namespace Gives

/-- A format of a manifest has an address, and no signature. -/
lemma addressed (h : Gives document set representation f) : f.Addressed := by
  obtain ⟨hu, -, -, -, hs, hk⟩ := entry_eq_format h.entry
  constructor
  · exact url?_ne_empty hu
  · simp [hs]
  · rw [hk]
    decide

/-- To read the media type of a format of a manifest is to read the one that the manifest names. -/
lemma mediaType?_eq (h : Gives document set representation f) :
    f.mediaType? =
      (ContentType.parse? (mediaTypeOf set representation).toList).map (·.mediaType) := by
  have hc : f.contentType.toList = (mediaTypeOf set representation).toList ++
      ';' :: (" codecs=" ++ codecsOf set representation).toList := by
    obtain ⟨-, hc, -⟩ := entry_eq_format h.entry
    simp [hc, contentTypeOf]
  rw [Format.mediaType?, Format.contentType?, hc, ContentType.parse?_append]

/-- A format of a manifest is well formed exactly if the manifest names a media type for it. -/
lemma wellFormed_iff (h : Gives document set representation f) :
    f.WellFormed ↔ (ContentType.parse? (mediaTypeOf set representation).toList).isSome = true := by
  have hm : f.contentType?.isSome =
      (ContentType.parse? (mediaTypeOf set representation).toList).isSome := by
    have he := congrArg Option.isSome h.mediaType?_eq
    rwa [Format.mediaType?, Option.isSome_map, Option.isSome_map] at he
  rw [← hm]
  exact ⟨fun hf => hf.contentType, fun hf => ⟨h.addressed, hf⟩⟩

end Gives

/-- The formats up to the first flaw are those of entries. -/
lemma mem_of_mem_collect {entries : List Entry} (h : f ∈ (collect entries).1.formats) :
    .format f ∈ entries := by
  induction entries with
  | nil => cases h
  | cons entry rest ih =>
    cases entry with
    -- nothing from a flaw on counts
    | broken flaw => cases h
    | format g =>
      rcases List.mem_cons.mp h with rfl | h
      · exact List.mem_cons_self
      · exact List.mem_cons_of_mem _ (ih h)
    | unmeasured contentType => exact List.mem_cons_of_mem _ (ih h)

/-- Every format of a manifest comes from one of its representations. -/
lemma exists_gives (h : f ∈ (read document).1.formats) :
    ∃ set representation, Gives document set representation f := by
  obtain ⟨⟨set, representation⟩, hm, he⟩ := List.mem_map.mp (mem_of_mem_collect h)
  exact ⟨set, representation, hm, he⟩

end Manifest

/-- A manifest that was read has no flaw. -/
lemma eq_of_readManifest_ok {e : Option Extractor} {document : Xml.Element} {videoId : Value}
    {s t : Session} {formats : List Format}
    (h : readManifest e document videoId s = (.ok formats, t)) :
    Manifest.read document = (⟨formats, (Manifest.read document).1.reports⟩, none) := by
  rw [readManifest] at h
  generalize Manifest.read document = reading at h ⊢
  obtain ⟨listing, flaw⟩ := reading
  obtain ⟨given, u, hd, hf⟩ := Run.eq_of_bind_ok h
  cases flaw with
  | some flaw => cases hf
  | none =>
    cases hf
    rw [Listing.eq_of_deliver_ok hd]

end PlayerPage
