import Mathlib.Data.List.TakeWhile
import PlayerPage.Proofs.Form.Object
import PlayerPage.Proofs.Format.WellFormed

/-!
Content types, written and read.

* `Text.BareOf`: a text with no character of a class at its ends; `Text.trimBy_append`: what is
  added of the class at its ends is removed again.
* `ContentType.IsLowerMediaType`: the media types that are read as they are.
* `ContentType.Writable`, `ContentType.WritesParameters`: the parameters that can be written, and
  the ways to write them, with or without quotes.
* `ContentType.parse?_of_writes`: a content type that was written is read as it was;
  `ContentType.ofValue_written`: so are its parameters as an object, and the media type and the
  codecs of a format.
-/

namespace PlayerPage

open Text

/-! ### Ends of texts -/

namespace Text

/-- A text neither begins nor ends with a character of the class `p`. -/
structure BareOf (p : Char → Bool) (s : List Char) : Prop where
  first : ∀ c ∈ s.head?, p c = false
  last : ∀ c ∈ s.getLast?, p c = false

instance (p : Char → Bool) (s : List Char) : Decidable (BareOf p s) :=
  decidable_of_iff (s.head?.all (!p ·) = true ∧ s.getLast?.all (!p ·) = true)
    ⟨fun h => ⟨by simpa [Option.all_eq_true] using h.1, by simpa [Option.all_eq_true] using h.2⟩,
      fun h => ⟨by simpa [Option.all_eq_true] using h.first,
        by simpa [Option.all_eq_true] using h.last⟩⟩

variable {p : Char → Bool} {c : Char} {before s after : List Char}

lemma bareOf_of_forall (h : ∀ c ∈ s, p c = false) : BareOf p s :=
  ⟨fun c hc => h c (List.mem_of_mem_head? hc), fun c hc => h c (List.mem_of_mem_getLast? hc)⟩

/-- Characters of a class that stand around a text are removed, and nothing else. -/
lemma trimBy_append (hbefore : ∀ c ∈ before, p c = true) (h : BareOf p s)
    (hafter : ∀ c ∈ after, p c = true) : trimBy p (before ++ (s ++ after)) = s := by
  have hreverse : ∀ c ∈ after.reverse, p c = true := by simpa using hafter
  rw [trimBy, dropLeading, List.dropWhile_append_of_pos hbefore]
  rcases List.eq_nil_or_concat' s with rfl | ⟨init, d, rfl⟩
  · rw [List.nil_append, List.dropWhile_eq_nil_iff.mpr hafter]
    rfl
  · have hd : p d = false := h.last d (by simp)
    have hlead : (init ++ [d] ++ after).dropWhile p = init ++ [d] ++ after := by
      cases init with
      | nil => exact List.dropWhile_cons_of_neg (by simp [hd])
      | cons c init =>
        have hc : p c = false := h.first c rfl
        exact List.dropWhile_cons_of_neg (by simp [hc])
    rw [hlead, dropTrailing, List.reverse_append, List.dropWhile_append_of_pos hreverse,
      List.reverse_append, List.reverse_singleton, List.singleton_append,
      List.dropWhile_cons_of_neg (by simp [hd])]
    simp

lemma trimBy_of_bareOf (h : BareOf p s) : trimBy p s = s := by
  have hnone : ∀ c ∈ ([] : List Char), p c = true := by simp
  simpa using trimBy_append hnone h hnone

/-- The code points of the blank characters. -/
def blanks : List Nat :=
  List.range' 9 5 ++ List.range' 28 5 ++ List.range' 0x2000 11 ++
    [0x85, 0xa0, 0x1680, 0x2028, 0x2029, 0x202f, 0x205f, 0x3000]

lemma toNat_mem_blanks (h : isBlank c = true) : c.toNat ∈ blanks := by
  simp only [isBlank, Bool.or_eq_true, Bool.and_eq_true, decide_eq_true_eq, beq_iff_eq] at h
  simp only [blanks, List.mem_append, List.mem_range'_1, List.mem_cons, List.not_mem_nil]
  omega

lemma trim_cons (h : isBlank c = true) (s : List Char) : trim (c :: s) = trim s := by
  rw [trim, trimBy, dropLeading, List.dropWhile_cons_of_pos h]
  rfl

end Text

namespace ContentType

/-! ### Media types -/

/-- A media type in lower case: two names with a slash between them. -/
structure IsLowerMediaType (s : List Char) : Prop where
  names : ∃ type subtype, s = type ++ '/' :: subtype ∧ type ≠ [] ∧ subtype ≠ [] ∧
    ∀ c ∈ type ++ subtype, isNameChar c = true
  lower : toLower s = s

section MediaType

variable {c : Char} {s : List Char}

/-- No blank is part of a name. -/
lemma isBlank_of_isNameChar (h : isNameChar c = true) : isBlank c = false := by
  have hnames : ∀ n ∈ blanks, isNameChar (Char.ofNat n) = false := by decide +kernel
  by_contra hblank
  have hname := hnames c.toNat (toNat_mem_blanks (by simpa using hblank))
  rw [Char.ofNat_toNat, h] at hname
  cases hname

lemma IsLowerMediaType.forall_mem (h : IsLowerMediaType s) :
    ∀ c ∈ s, isNameChar c = true ∨ c = '/' := by
  obtain ⟨type, subtype, rfl, -, -, hc⟩ := h.names
  intro c hm
  rcases List.mem_append.mp hm with hm | hm
  · exact .inl (hc c (List.mem_append_left _ hm))
  · rcases List.mem_cons.mp hm with rfl | hm
    · exact .inr rfl
    · exact .inl (hc c (List.mem_append_right _ hm))

lemma IsLowerMediaType.isMediaType (h : IsLowerMediaType s) : isMediaType s = true := by
  obtain ⟨type, subtype, rfl, ht, hs, hc⟩ := h.names
  have hslash : ∀ n : List Char, (∀ c ∈ n, isNameChar c = true) → '/' ∉ n := by
    intro n hn hm
    exact absurd (hn '/' hm) (by decide +kernel)
  have htype : ∀ c ∈ type, isNameChar c = true := fun c hm => hc c (List.mem_append_left _ hm)
  have hsubtype : ∀ c ∈ subtype, isNameChar c = true :=
    fun c hm => hc c (List.mem_append_right _ hm)
  rw [ContentType.isMediaType, pieces_append, pieces_of_not_mem (hslash type htype),
    pieces_of_not_mem (hslash subtype hsubtype)]
  simpa [ht, hs] using ⟨htype, hsubtype⟩

lemma IsLowerMediaType.not_mem (h : IsLowerMediaType s) : ';' ∉ s := by
  intro hm
  rcases h.forall_mem ';' hm with hc | hc
  · exact absurd hc (by decide +kernel)
  · exact absurd hc (by decide)

/-- There are no blanks at the ends of a media type. -/
lemma IsLowerMediaType.fold_eq (h : IsLowerMediaType s) : fold s = s := by
  have hbare : BareOf isBlank s := by
    refine bareOf_of_forall fun c hm => ?_
    rcases h.forall_mem c hm with hc | rfl
    · exact isBlank_of_isNameChar hc
    · decide
  rw [fold, trim, trimBy_of_bareOf hbare, h.lower]

end MediaType

/-! ### Parameters -/

/-- A parameter that can be written: its name is one that reading leaves as it is, and neither the
name nor the value has a mark in it that would end it, nor the value quotes at its ends. -/
structure Writable (parameter : String × String) : Prop where
  name_ne : parameter.1 ≠ ""
  name_folded : fold parameter.1.toList = parameter.1.toList
  name_unmarked : ';' ∉ parameter.1.toList ∧ '=' ∉ parameter.1.toList
  value_unmarked : ';' ∉ parameter.2.toList
  value_bare : BareOf (· == '"') parameter.2.toList

instance (p : String × String) : Decidable (Writable p) :=
  decidable_of_iff (p.1 ≠ "" ∧ fold p.1.toList = p.1.toList ∧
      (';' ∉ p.1.toList ∧ '=' ∉ p.1.toList) ∧ ';' ∉ p.2.toList ∧ BareOf (· == '"') p.2.toList)
    ⟨fun ⟨h, hf, hn, hv, hb⟩ => ⟨h, hf, hn, hv, hb⟩, fun ⟨h, hf, hn, hv, hb⟩ => ⟨h, hf, hn, hv, hb⟩⟩

/-- The ways to write a parameter: with its value in quotes, or without quotes if there are no
blanks at the ends of the value. -/
inductive WritesParameter : String × String → List Char → Prop
  | quoted (name value : String) :
      WritesParameter (name, value) (name.toList ++ '=' :: ('"' :: (value.toList ++ ['"'])))
  | unquoted (name : String) {value : String} (h : BareOf isBlank value.toList) :
      WritesParameter (name, value) (name.toList ++ '=' :: value.toList)

/-- The ways to write parameters: each after a semicolon and a space. -/
inductive WritesParameters : List (String × String) → List Char → Prop
  | nil : WritesParameters [] []
  | cons {parameter : String × String} {parameters : List (String × String)} {v w : List Char}
      (hv : WritesParameter parameter v) (hw : WritesParameters parameters w) :
      WritesParameters (parameter :: parameters) (';' :: (' ' :: v ++ w))

section Parameters

variable {parameter : String × String} {parameters : List (String × String)} {s v w : List Char}

lemma WritesParameter.not_mem (h : WritesParameter parameter v) (hp : Writable parameter) :
    ';' ∉ v := by
  have hname := hp.name_unmarked.1
  have hvalue := hp.value_unmarked
  cases h <;> simp_all

/-- A parameter that was written is read as it was. -/
lemma parameter?_of_writes (h : WritesParameter parameter v) (hp : Writable parameter) :
    parameter? (' ' :: v) = some parameter := by
  have hread {name value : String} {t : List Char} (hp : Writable (name, value))
      (ht : trimBy (· == '"') (trim t) = value.toList) :
      parameter? (' ' :: (name.toList ++ '=' :: t)) = some (name, value) := by
    have hmark : '=' ∉ ' ' :: name.toList := by simpa using hp.name_unmarked.2
    have hname : fold (' ' :: name.toList) = name.toList := by
      rw [fold, trim_cons (by decide)]
      exact hp.name_folded
    have hne : name.toList.isEmpty = false := by simpa using hp.name_ne
    rw [parameter?, ← List.cons_append, cutAtChar_append hmark]
    simp [hname, hne, ht]
  cases h with
  | quoted name value =>
    have hbare : BareOf isBlank ('"' :: (value.toList ++ ['"'])) := by
      constructor
      · rintro c ⟨⟩
        decide
      · rw [← List.cons_append, List.getLast?_concat]
        rintro c ⟨⟩
        decide
    refine hread hp ?_
    rw [trim, trimBy_of_bareOf hbare]
    have hquote : ∀ c ∈ ['"'], (c == '"') = true := by simp
    exact trimBy_append hquote hp.value_bare hquote
  | unquoted name hblank =>
    refine hread hp ?_
    rw [trim, trimBy_of_bareOf hblank, trimBy_of_bareOf hp.value_bare]

/-- What stands before written parameters is the first piece, and the others are parameters. -/
lemma pieces_of_writes (h : WritesParameters parameters w) (hp : ∀ p ∈ parameters, Writable p)
    (hs : ';' ∉ s) :
    ∃ rest, pieces ';' (s ++ w) = s :: rest ∧ rest.filterMap parameter? = parameters := by
  induction h generalizing s with
  | nil => exact ⟨[], by rw [List.append_nil, pieces_of_not_mem hs], rfl⟩
  | @cons parameter parameters v w hv _ ih =>
    have hparameter := hp parameter List.mem_cons_self
    have hmark : ';' ∉ ' ' :: v := by simpa using hv.not_mem hparameter
    obtain ⟨rest, hpieces, hrest⟩ := ih (fun p hm => hp p (List.mem_cons_of_mem _ hm)) hmark
    refine ⟨(' ' :: v) :: rest, ?_, ?_⟩
    · rw [pieces_append, pieces_of_not_mem hs, hpieces]
      rfl
    · rw [List.filterMap_cons_some (parameter?_of_writes hv hparameter), hrest]

/-- A content type that was written is read as it was. -/
theorem parse?_of_writes {mediaType : String} (hm : IsLowerMediaType mediaType.toList)
    (hp : ∀ p ∈ parameters, Writable p) (hw : WritesParameters parameters w) :
    parse? (mediaType.toList ++ w) = some ⟨mediaType, parameters⟩ := by
  obtain ⟨rest, hpieces, hrest⟩ := pieces_of_writes hw hp hm.not_mem
  rw [parse?, hpieces]
  simp only [hm.fold_eq, hm.isMediaType, if_true, hrest, String.ofList_toList]

end Parameters

end ContentType

/-! ### Content types of formats -/

namespace Manifest

open Xml

/-- The content type of a representation is its media type with its codecs as a parameter. -/
lemma contentTypeOf_eq (set representation : Element) :
    (contentTypeOf set representation).toList = (mediaTypeOf set representation).toList ++
      ';' :: (' ' :: ("codecs".toList ++ '=' :: (codecsOf set representation).toList) ++ []) := by
  simp [contentTypeOf]

end Manifest

namespace ContentType

/-- What is read of a format whose content type is known. -/
lemma read_of_contentType? {f : Format} {mediaType : String} {parameters : List (String × String)}
    (h : f.contentType? = some ⟨mediaType, parameters⟩) :
    f.mediaType? = some mediaType ∧
      ∀ codecs, f.codecs? = some codecs ↔ Form.LastOf parameters "codecs" codecs := by
  refine ⟨by rw [Format.mediaType?, h]; rfl, fun codecs => ?_⟩
  rw [Format.codecs?, h]
  exact Form.get?_eq_some_iff

/-- **Content types there and back.** A media type in lower case is written with writable
parameters, each with or without quotes. This text is read as exactly this media type and these
parameters; as an object they have one member for each name, in the order in which the names first
stand in the text, with the value of the last parameter of the name. So every format with this
content type has this media type, and the last of the codecs in the parameters; and so does a format
of a manifest with this media type, whose content type has the codecs that the manifest names as its
only parameter. -/
theorem ofValue_written {mediaType : String} (hm : IsLowerMediaType mediaType.toList)
    {parameters : List (String × String)} (hp : ∀ p ∈ parameters, Writable p) {w : List Char}
    (hw : WritesParameters parameters w) :
    let text := mediaType ++ String.ofList w
    let object := (⟨mediaType, parameters⟩ : ContentType).members
    ofValue (.str text) = .ok ⟨mediaType, parameters⟩ ∧
      object.map Prod.fst = (parameters.map Prod.fst).eraseDups ∧
      (∀ name v, Members.get? object name = some v ↔
        ∃ value, Form.LastOf parameters name value ∧ .str value = v) ∧
      (∀ f : Format, f.contentType = text → f.mediaType? = some mediaType ∧
        ∀ codecs, f.codecs? = some codecs ↔ Form.LastOf parameters "codecs" codecs) ∧
      ∀ document set representation f, Manifest.Gives document set representation f →
        Manifest.mediaTypeOf set representation = mediaType →
        [("codecs", Manifest.codecsOf set representation)] = parameters →
        BareOf isBlank (Manifest.codecsOf set representation).toList →
        f.mediaType? = some mediaType ∧
          f.codecs? = some (Manifest.codecsOf set representation) := by
  intro text object
  have htext : text.toList = mediaType.toList ++ w := by simp [text]
  have hparse : parse? text.toList = some ⟨mediaType, parameters⟩ := by
    rw [htext]
    exact parse?_of_writes hm hp hw
  refine ⟨by rw [ofValue, hparse], Form.map_fst_toMembers parameters, fun name v => ?_,
    fun f hf => read_of_contentType? (by rw [Format.contentType?, hf, hparse]), ?_⟩
  · calc Members.get? object name = some v
        ↔ ∃ value, Form.get? parameters name = some value ∧ .str value = v := by
          rw [← Option.map_eq_some_iff, ← Form.get?_toMembers]
          rfl
      _ ↔ ∃ value, Form.LastOf parameters name value ∧ .str value = v := by
          simp only [Form.get?_eq_some_iff]
  · rintro document set representation f hf rfl rfl hbare
    have hwritten : WritesParameters [("codecs", Manifest.codecsOf set representation)]
        (';' :: (' ' :: ("codecs".toList ++ '=' ::
          (Manifest.codecsOf set representation).toList) ++ [])) :=
      .cons (.unquoted "codecs" hbare) .nil
    obtain ⟨-, hcontentType, -⟩ := Manifest.entry_eq_format hf.entry
    have hread : f.contentType? = some ⟨Manifest.mediaTypeOf set representation,
        [("codecs", Manifest.codecsOf set representation)]⟩ := by
      rw [Format.contentType?, hcontentType, Manifest.contentTypeOf_eq]
      exact parse?_of_writes hm hp hwritten
    obtain ⟨hmedia, hcodecs⟩ := read_of_contentType? hread
    exact ⟨hmedia, (hcodecs _).mpr ⟨[], [], rfl, List.not_mem_nil⟩⟩

/-- Parameters with marks, blanks and inner quotes in their values and one name twice, and the
codecs in a manifest, are read as they were written. -/
theorem ofValue_written_of_quotes :
    let parameters := [("codecs", "old"), ("a b", " x=\"y\",z "), ("codecs", "avc1.4d, mp4a")]
    let text := "video/mp4; codecs=\"old\"; a b=\" x=\"y\",z \"; codecs=avc1.4d, mp4a"
    let object : Members := [("codecs", .str "avc1.4d, mp4a"), ("a b", .str " x=\"y\",z ")]
    let f : Format := ⟨text, 7, 10, "http://x/a", none, "sp"⟩
    let representation : Xml.Element := .mk "Representation" [("mimeType", "audio/webm"),
      ("codecs", "opus"), ("bandwidth", "7")]
        [.element (.mk "BaseURL" [] [.text "http://x/clen/10/a"])]
    let set : Xml.Element := .mk "AdaptationSet" [("codecs", "vorbis")] [.element representation]
    let g : Format :=
      ⟨"audio/webm; codecs=opus", 7, 10, "http://x/clen/10/a", none, defaultSignatureKey⟩
    ofValue (.str text) = .ok ⟨"video/mp4", parameters⟩ ∧
      (⟨"video/mp4", parameters⟩ : ContentType).members = object ∧
      f.mediaType? = some "video/mp4" ∧ f.codecs? = some "avc1.4d, mp4a" ∧
      Manifest.Gives set set representation g ∧
      g.mediaType? = some "audio/webm" ∧ g.codecs? = some "opus" := by
  intro parameters text object f representation set g
  have hvideo : IsLowerMediaType "video/mp4".toList :=
    ⟨⟨"video".toList, "mp4".toList, by decide, by decide, by decide,
      List.all_eq_true.mp (by decide +kernel)⟩, by decide +kernel⟩
  have haudio : IsLowerMediaType "audio/webm".toList :=
    ⟨⟨"audio".toList, "webm".toList, by decide, by decide, by decide,
      List.all_eq_true.mp (by decide +kernel)⟩, by decide +kernel⟩
  have hparameters : ∀ p ∈ parameters, Writable p := by decide +kernel +zetaReduce
  have hw : WritesParameters parameters
      "; codecs=\"old\"; a b=\" x=\"y\",z \"; codecs=avc1.4d, mp4a".toList :=
    .cons (.quoted "codecs" "old") (.cons (.quoted "a b" " x=\"y\",z ")
      (.cons (.unquoted "codecs" (by decide)) .nil))
  have hcodecs : ∀ p ∈ [("codecs", "opus")], Writable p := by decide +kernel
  have hpairs : Manifest.pairs set = [(set, representation)] := by
    simp [set, representation, Manifest.pairs, Xml.Element.named, Xml.Element.elements,
      Xml.Node.elements, Xml.localName, Xml.Element.tag]
  have hgives : Manifest.Gives set set representation g := ⟨by simp [hpairs], by rfl⟩
  obtain ⟨hread, -, -, hf, -⟩ := ofValue_written hvideo hparameters hw
  obtain ⟨-, -, -, -, hg⟩ := ofValue_written haudio hcodecs
    (.cons (.unquoted "codecs" (by decide)) .nil)
  obtain ⟨hfmedia, hfcodecs⟩ := hf f rfl
  obtain ⟨hgmedia, hgcodecs⟩ := hg set set representation g hgives rfl rfl (by decide)
  exact ⟨hread, rfl, hfmedia, (hfcodecs _).mpr ⟨parameters.take 2, [], rfl, List.not_mem_nil⟩,
    hgives, hgmedia, hgcodecs⟩

end ContentType

end PlayerPage
