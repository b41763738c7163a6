import PlayerPage.Proofs.Format.Bitrate
import PlayerPage.Proofs.Text.Search

/-!
What a manifest gives, representation by representation.

* `Manifest.HasAddress`, `Manifest.HoldsLength`, `Manifest.StatesBandwidth`, `Manifest.NamesType`:
  what a representation in a set says of itself.
* `Manifest.Describes`, `Manifest.Unmeasured`, `Manifest.Broken`: a representation describes a
  format, or its address does not hold its length, or it is broken;
  `Manifest.describes_or_unmeasured_or_broken`: there is nothing else.
* `Manifest.BreaksAt`: where the first broken one of some representations is, if one is
  (`Manifest.unbroken_or_breaksAt`).
* `Manifest.Accounts`: what representations come to if none is broken, which is one thing only
  (`Manifest.exists_accounts`, `Manifest.Accounts.unique`); `Manifest.Accounts.collect_append`: so
  far a manifest is read.
* `readManifest_accounts`: either all representations of a document are accounted for, or the first
  broken one is the error.
-/

namespace PlayerPage

open Xml

namespace Manifest

/-! ### What a representation says -/

/-- The address of a representation: the text of the first one in it, without the blanks at its
ends, if it is not blank altogether. -/
def HasAddress (representation : Element) (url : String) : Prop :=
  ∃ address rest text, representation.named "BaseURL" = address :: rest ∧
    address.leadingText? = some text ∧ url = String.ofList (Text.trim text.toList) ∧ url ≠ ""

/-- The integer that an address holds between the first `/clen/` and the next slash. -/
def HoldsLength (url : String) (n : Int) : Prop :=
  Format.HoldsLength "/clen/" "/" url n

/-- The integer that a representation states as its bandwidth. -/
def StatesBandwidth (representation : Element) (n : Int) : Prop :=
  ∃ text, representation.get? "bandwidth" = some text ∧ (Value.str text).toInt? = some n

/-- The media type of a representation: the one of its set comes first, unless it is empty. -/
inductive NamesMediaType (set representation : Element) : String → Prop
  | ofSet {mediaType : String} (hs : set.get? "mimeType" = some mediaType) (hne : mediaType ≠ "") :
      NamesMediaType set representation mediaType
  | ofRepresentation {mediaType : String}
      (hs : ∀ mediaType, set.get? "mimeType" = some mediaType → mediaType = "")
      (hr : representation.get? "mimeType" = some mediaType) :
      NamesMediaType set representation mediaType
  | nowhere (hs : ∀ mediaType, set.get? "mimeType" = some mediaType → mediaType = "")
      (hr : representation.get? "mimeType" = none) : NamesMediaType set representation ""

/-- The codecs of a representation: its own come first, even if there are none in them. -/
inductive NamesCodecs (set representation : Element) : String → Prop
  | ofRepresentation {codecs : String} (hr : representation.get? "codecs" = some codecs) :
      NamesCodecs set representation codecs
  | ofSet {codecs : String} (hr : representation.get? "codecs" = none)
      (hs : set.get? "codecs" = some codecs) : NamesCodecs set representation codecs
  | nowhere (hr : representation.get? "codecs" = none) (hs : set.get? "codecs" = none) :
      NamesCodecs set representation ""

/-- The content type of a representation in a set. -/
def NamesType (set representation : Element) (contentType : String) : Prop :=
  ∃ mediaType codecs, NamesMediaType set representation mediaType ∧
    NamesCodecs set representation codecs ∧ contentType = mediaType ++ "; codecs=" ++ codecs

/-- A representation in a set describes a format. -/
structure Describes (set representation : Element) (f : Format) : Prop where
  url : HasAddress representation f.url
  contentLength : HoldsLength f.url f.contentLength
  bitrate : StatesBandwidth representation f.bitrate
  contentType : NamesType set representation f.contentType
  signature : f.signature = none
  signatureKey : f.signatureKey = defaultSignatureKey

/-- The address of a representation does not hold its length. -/
def Unmeasured (representation : Element) : Prop :=
  ∃ url, HasAddress representation url ∧ ∀ n, ¬ HoldsLength url n

/-- What is wrong with a representation, in words and with the cause: it has no address, or its
address holds its length but it does not state its bandwidth. -/
inductive Broken (set representation : Element) : (text : String) → (cause : Cause) → Prop
  | noAddress (hu : ∀ url, ¬ HasAddress representation url) :
      Broken set representation
        ("Representation " ++ (Value.ofOption (representation.get? "id")).display ++
          " has no BaseURL")
        (.value .null)
  | badBandwidth {url contentType : String} {n : Int} {fault : Fault}
      (hu : HasAddress representation url) (hn : HoldsLength url n)
      (hb : ∀ n, ¬ StatesBandwidth representation n)
      (hf : (Value.ofOption (representation.get? "bandwidth")).integer = .error fault)
      (ht : NamesType set representation contentType) :
      Broken set representation
        ("Invalid bandwidth " ++ (Value.ofOption (representation.get? "bandwidth")).literal ++
          " for format " ++ contentType)
        (.failure (.fault fault))

/-! ### What is read of it -/

variable {set representation : Element} {url contentType text : String} {n : Int} {f : Format}
  {cause : Cause}

lemma url?_eq_some_iff : url? representation = some url ↔ HasAddress representation url := by
  rw [url?, HasAddress]
  cases representation.named "BaseURL" with
  | nil => simp
  | cons address rest =>
    simp only [Option.filter_eq_some_iff, bne_iff_ne]
    constructor
    · rintro ⟨h, hne⟩
      obtain ⟨text, ht, rfl⟩ := Option.map_eq_some_iff.mp h
      exact ⟨address, rest, text, rfl, ht, rfl, hne⟩
    · rintro ⟨_, _, text, ⟨⟩, ht, rfl, hne⟩
      exact ⟨Option.map_eq_some_iff.mpr ⟨text, ht, rfl⟩, hne⟩

lemma url?_eq_none_iff : url? representation = none ↔ ∀ url, ¬ HasAddress representation url := by
  simp only [Option.eq_none_iff_forall_ne_some, ne_eq, url?_eq_some_iff]

lemma lengthInUrl?_eq_some_iff :
    Format.lengthInUrl? "/clen/" "/" url = some n ↔ HoldsLength url n :=
  Format.lengthInUrl?_eq_some_iff

lemma integer_eq_ok_iff :
    (Value.ofOption (representation.get? "bandwidth")).integer = .ok n ↔
      StatesBandwidth representation n := by
  rw [StatesBandwidth]
  cases representation.get? "bandwidth" with
  | none => simp [Value.ofOption, Value.integer]
  | some text =>
    constructor
    · intro h
      have ht : (Value.str text).integer = .ok n := h
      refine ⟨text, rfl, ?_⟩
      show (Value.str text).integer.toOption = some n
      rw [ht]
      rfl
    · rintro ⟨_, ⟨⟩, h⟩
      exact Value.integer_of_toInt? h

/-- An empty media type of the set counts as none. -/
lemma filter_mimeType_eq_none_iff : (set.get? "mimeType").filter (· != "") = none ↔
    ∀ mediaType, set.get? "mimeType" = some mediaType → mediaType = "" := by
  simp [Option.filter_eq_none_iff]

lemma NamesMediaType.eq {mediaType : String} (h : NamesMediaType set representation mediaType) :
    mediaType = mediaTypeOf set representation := by
  rw [mediaTypeOf]
  cases h with
  | ofSet hs hne =>
    rw [hs, Option.filter_some, if_pos (bne_iff_ne.mpr hne)]
    rfl
  | ofRepresentation hs hr =>
    rw [filter_mimeType_eq_none_iff.mpr hs, hr]
    rfl
  | nowhere hs hr =>
    rw [filter_mimeType_eq_none_iff.mpr hs, hr]
    rfl

lemma namesMediaType_mediaTypeOf (set representation : Element) :
    NamesMediaType set representation (mediaTypeOf set representation) := by
  rw [mediaTypeOf]
  cases hs : (set.get? "mimeType").filter (· != "") with
  | some mediaType =>
    obtain ⟨hset, hne⟩ := Option.filter_eq_some_iff.mp hs
    exact .ofSet hset (bne_iff_ne.mp hne)
  | none =>
    have hset := filter_mimeType_eq_none_iff.mp hs
    cases hr : representation.get? "mimeType" with
    | some mediaType => exact .ofRepresentation hset hr
    | none => exact .nowhere hset hr

/-- What the codecs of a representation are: its own, or those of the set. -/
lemma namesCodecs_iff {codecs : String} : NamesCodecs set representation codecs ↔
    codecs = codecsOf set representation := by
  rw [codecsOf]
  constructor
  · rintro (hr | ⟨hr, hs⟩ | ⟨hr, hs⟩)
    · rw [hr]
      rfl
    · rw [hr, hs]
      rfl
    · rw [hr, hs]
      rfl
  · rintro rfl
    cases hr : representation.get? "codecs" with
    | some codecs => exact .ofRepresentation hr
    | none =>
      cases hs : set.get? "codecs" with
      | some codecs => exact .ofSet hr hs
      | none => exact .nowhere hr hs

lemma namesType_iff :
    NamesType set representation contentType ↔
      contentType = contentTypeOf set representation := by
  constructor
  · rintro ⟨mediaType, codecs, hm, hc, rfl⟩
    rw [hm.eq, namesCodecs_iff.mp hc]
    rfl
  · rintro rfl
    exact ⟨_, _, namesMediaType_mediaTypeOf _ _, namesCodecs_iff.mpr rfl, rfl⟩

/-! ### What it gives -/

lemma forall_not_statesBandwidth {fault : Fault}
    (h : (Value.ofOption (representation.get? "bandwidth")).integer = .error fault) (n : Int) :
    ¬ StatesBandwidth representation n := by
  intro hn
  rw [integer_eq_ok_iff.mpr hn] at h
  cases h

lemma unmeasured_iff : Unmeasured representation ↔
    ∃ url, url? representation = some url ∧ Format.lengthInUrl? "/clen/" "/" url = none := by
  simp only [Unmeasured, url?_eq_some_iff, Option.eq_none_iff_forall_ne_some, ne_eq,
    lengthInUrl?_eq_some_iff]

/-- A representation gives a format exactly if it describes it. -/
lemma entry_eq_format_iff :
    entry set representation = .format f ↔ Describes set representation f := by
  constructor
  · intro h
    obtain ⟨hu, hc, hb, hn, hs, hk⟩ := entry_eq_format h
    exact ⟨url?_eq_some_iff.mp hu, lengthInUrl?_eq_some_iff.mp hn, integer_eq_ok_iff.mp hb,
      namesType_iff.mpr hc, hs, hk⟩
  · rintro ⟨hu, hn, hb, hc, hs, hk⟩
    obtain ⟨contentType, bitrate, contentLength, url, signature, signatureKey⟩ := f
    obtain rfl : contentType = _ := namesType_iff.mp hc
    obtain rfl : signature = none := hs
    obtain rfl : signatureKey = _ := hk
    rw [entry, url?_eq_some_iff.mpr hu]
    simp only [lengthInUrl?_eq_some_iff.mpr hn, integer_eq_ok_iff.mpr hb]

/-- It gives nothing if its address does not hold its length. -/
lemma Unmeasured.entry_eq (h : Unmeasured representation)
    (hc : NamesType set representation contentType) :
    entry set representation = .unmeasured contentType := by
  obtain ⟨url, hu, hn⟩ := unmeasured_iff.mp h
  rw [entry, hu, namesType_iff.mp hc]
  simp only [hn]

/-- It gives a flaw, which makes the error that says what is wrong, if it is broken. -/
lemma Broken.entry_eq (h : Broken set representation text cause) :
    ∃ flaw, entry set representation = .broken flaw ∧
      ∀ videoId ie, flaw.toFailure videoId ie = .extractor text cause videoId ie := by
  cases h with
  | noAddress hu =>
    refine ⟨.noUrl (representation.get? "id"), ?_, fun _ _ => rfl⟩
    rw [entry, url?_eq_none_iff.mpr hu]
  | @badBandwidth url contentType n fault hu hn _ hf hc =>
    refine ⟨.badBandwidth (representation.get? "bandwidth") contentType fault, ?_, fun _ _ => rfl⟩
    rw [entry, url?_eq_some_iff.mpr hu, namesType_iff.mp hc]
    simp only [lengthInUrl?_eq_some_iff.mpr hn, hf]

/-- There is nothing else: a representation describes a format, or its address does not hold its
length, or it is broken. -/
lemma describes_or_unmeasured_or_broken (set representation : Element) :
    (∃ f, Describes set representation f) ∨
      (∃ contentType, Unmeasured representation ∧ NamesType set representation contentType) ∨
      ∃ text cause, Broken set representation text cause := by
  have hc : NamesType set representation (contentTypeOf set representation) := namesType_iff.mpr rfl
  cases hu : url? representation with
  | none => exact .inr (.inr ⟨_, _, .noAddress (url?_eq_none_iff.mp hu)⟩)
  | some url =>
    cases hn : Format.lengthInUrl? "/clen/" "/" url with
    | none => exact .inr (.inl ⟨_, unmeasured_iff.mpr ⟨url, hu, hn⟩, hc⟩)
    | some n =>
      cases hb : (Value.ofOption (representation.get? "bandwidth")).integer with
      | ok bitrate =>
        refine .inl ⟨⟨_, bitrate, n, url, none, defaultSignatureKey⟩, ?_, ?_, ?_, hc, rfl, rfl⟩
        · exact url?_eq_some_iff.mp hu
        · exact lengthInUrl?_eq_some_iff.mp hn
        · exact integer_eq_ok_iff.mp hb
      | error fault =>
        have hstates := forall_not_statesBandwidth hb
        exact .inr (.inr ⟨_, _, .badBandwidth (url?_eq_some_iff.mp hu)
          (lengthInUrl?_eq_some_iff.mp hn) hstates hb hc⟩)

/-! ### What the representations of a document give -/

/-- None of these representations is broken. -/
def Unbroken (pairs : List (Element × Element)) : Prop :=
  ∀ set representation, (set, representation) ∈ pairs →
    ∀ text cause, ¬ Broken set representation text cause

/-- The first broken one of some representations comes after `before`. -/
structure BreaksAt (pairs before : List (Element × Element)) (text : String) (cause : Cause) :
    Prop where
  unbroken : Unbroken before
  broken : ∃ set representation after, pairs = before ++ (set, representation) :: after ∧
    Broken set representation text cause

/-- What representations come to: the formats of those that describe one, in order, and the content
types of those that are skipped, in order. -/
inductive Accounts : List (Element × Element) → List Format → List String → Prop
  | nil : Accounts [] [] []
  | format {set representation : Element} {f : Format} {rest : List (Element × Element)}
      {formats : List Format} {skipped : List String} (h : Describes set representation f)
      (hrest : Accounts rest formats skipped) :
      Accounts ((set, representation) :: rest) (f :: formats) skipped
  | unmeasured {set representation : Element} {contentType : String}
      {rest : List (Element × Element)} {formats : List Format} {skipped : List String}
      (h : Unmeasured representation) (hc : NamesType set representation contentType)
      (hrest : Accounts rest formats skipped) :
      Accounts ((set, representation) :: rest) formats (contentType :: skipped)

section

variable {pairs before rest : List (Element × Element)} {formats : List Format}
  {skipped : List String}

lemma Unbroken.cons (h : ∀ text cause, ¬ Broken set representation text cause)
    (hrest : Unbroken rest) : Unbroken ((set, representation) :: rest) := by
  intro set' representation' hm
  rcases List.mem_cons.mp hm with he | hm
  · obtain ⟨rfl, rfl⟩ := Prod.mk.inj he
    exact h
  · exact hrest set' representation' hm

/-- If there is a broken representation, there is a first one. -/
lemma unbroken_or_breaksAt (pairs : List (Element × Element)) :
    Unbroken pairs ∨ ∃ before text cause, BreaksAt pairs before text cause := by
  induction pairs with
  | nil =>
    left
    rintro _ _ ⟨⟩
  | cons pair rest ih =>
    obtain ⟨set, representation⟩ := pair
    by_cases hb : ∃ text cause, Broken set representation text cause
    · obtain ⟨text, cause, hb⟩ := hb
      refine .inr ⟨[], text, cause, ?_, set, representation, rest, rfl, hb⟩
      rintro _ _ ⟨⟩
    · simp only [not_exists] at hb
      rcases ih with hrest | ⟨before, text, cause, hbefore, set', representation', after, rfl, hb'⟩
      · exact .inl (hrest.cons hb)
      · exact .inr ⟨_, text, cause, hbefore.cons hb, set', representation', after, rfl, hb'⟩

/-- Representations of which none is broken come to something. -/
lemma exists_accounts (h : Unbroken pairs) : ∃ formats skipped, Accounts pairs formats skipped := by
  induction pairs with
  | nil => exact ⟨[], [], .nil⟩
  | cons pair rest ih =>
    obtain ⟨set, representation⟩ := pair
    have hrest : Unbroken rest := fun set representation hm =>
      h set representation (List.mem_cons_of_mem _ hm)
    obtain ⟨formats, skipped, haccounts⟩ := ih hrest
    rcases describes_or_unmeasured_or_broken set representation with
      ⟨f, hf⟩ | ⟨contentType, hu, hc⟩ | ⟨text, cause, hb⟩
    · exact ⟨f :: formats, skipped, .format hf haccounts⟩
    · exact ⟨formats, contentType :: skipped, .unmeasured hu hc haccounts⟩
    · exact absurd hb (h set representation List.mem_cons_self text cause)

/-- There is only one way in which representations come to something. -/
lemma Accounts.unique (h : Accounts pairs formats skipped) {formats' : List Format}
    {skipped' : List String} (h' : Accounts pairs formats' skipped') :
    formats' = formats ∧ skipped' = skipped := by
  induction h generalizing formats' skipped' with
  | nil =>
    cases h'
    exact ⟨rfl, rfl⟩
  | format h _ ih =>
    have he := entry_eq_format_iff.mpr h
    cases h' with
    | format h' hrest =>
      obtain ⟨hformats, hskipped⟩ := ih hrest
      obtain rfl := Entry.format.inj (he.symm.trans (entry_eq_format_iff.mpr h'))
      exact ⟨congrArg _ hformats, hskipped⟩
    | unmeasured h' hc _ => cases he.symm.trans (h'.entry_eq hc)
  | unmeasured h hc _ ih =>
    have he := h.entry_eq hc
    cases h' with
    | format h' _ => cases he.symm.trans (entry_eq_format_iff.mpr h')
    | unmeasured h' hc' hrest =>
      obtain ⟨hformats, hskipped⟩ := ih hrest
      obtain rfl := Entry.unmeasured.inj (he.symm.trans (h'.entry_eq hc'))
      exact ⟨hformats, congrArg _ hskipped⟩

/-- Representations that come to something are not broken. -/
lemma Accounts.unbroken (h : Accounts pairs formats skipped) : Unbroken pairs := by
  induction h with
  | nil =>
    rintro _ _ ⟨⟩
  | format h _ ih =>
    refine ih.cons fun text cause hb => ?_
    obtain ⟨flaw, hflaw, -⟩ := hb.entry_eq
    cases hflaw.symm.trans (entry_eq_format_iff.mpr h)
  | unmeasured h hc _ ih =>
    refine ih.cons fun text cause hb => ?_
    obtain ⟨flaw, hflaw, -⟩ := hb.entry_eq
    cases hflaw.symm.trans (h.entry_eq hc)

/-- What is collected of entries, after those of representations that come to something. -/
lemma Accounts.collect_append (h : Accounts pairs formats skipped) (entries : List Entry) :
    collect (pairs.map (fun (set, representation) => entry set representation) ++ entries) =
      (⟨formats ++ (collect entries).1.formats,
        skipped.map unmeasuredReport ++ (collect entries).1.reports⟩, (collect entries).2) := by
  induction h with
  | nil => rfl
  | format h _ ih =>
    have he := entry_eq_format_iff.mpr h
    rw [List.map_cons, List.cons_append]
    simp only [he, collect, ih]
    rfl
  | unmeasured h hc _ ih =>
    have he := h.entry_eq hc
    rw [List.map_cons, List.cons_append]
    simp only [he, collect, ih]
    rfl

/-- A document is read to its end if all its representations come to something. -/
lemma Accounts.read_eq {document : Element}
    (h : Accounts (Manifest.pairs document) formats skipped) :
    read document = (⟨formats, skipped.map unmeasuredReport⟩, none) := by
  have hread := h.collect_append []
  rw [List.append_nil] at hread
  rw [read, entries, hread]
  simp [collect]

/-- A document is read up to its first broken representation. -/
lemma Accounts.read_eq_of_breaksAt {document : Element} (h : Accounts before formats skipped)
    (hb : BreaksAt (Manifest.pairs document) before text cause) :
    ∃ flaw, read document = (⟨formats, skipped.map unmeasuredReport⟩, some flaw) ∧
      ∀ videoId ie, flaw.toFailure videoId ie = .extractor text cause videoId ie := by
  obtain ⟨-, set, representation, after, hd, hb⟩ := hb
  obtain ⟨flaw, he, hflaw⟩ := hb.entry_eq
  refine ⟨flaw, ?_, hflaw⟩
  rw [read, entries, hd, List.map_append, h.collect_append, List.map_cons]
  simp [he, collect]

end

/-! ### Readings -/

/-- What is reported of the content types that are skipped: nothing without an extractor, or else
one debug message for each, in order, which a logger that records every report shows. -/
structure Reported (e : Option Extractor) (videoId : Value) (skipped : List String)
    (s t : Session) : Prop where
  silent : e = none → t = s
  told : ∀ x ∈ e, t = (x.tellAll videoId (skipped.map unmeasuredReport) s).2
  recorded : ∀ x ∈ e, x.reporting.Recording → t = { s with
    journal := s.journal ++ skipped.map fun contentType => .debug ("[debug] " ++
      (x.heading videoId ++
        ("Skipping format " ++ contentType ++ " because the content length is missing"))) }

/-- A listing with skipped content types is handed on if the settings work. -/
lemma deliver_eq {e : Option Extractor} (he : ∀ x ∈ e, x.reporting.Working) (videoId : Value)
    (formats : List Format) (skipped : List String) (s : Session) :
    ∃ t, Listing.deliver ⟨formats, skipped.map unmeasuredReport⟩ e videoId s = (.ok formats, t) ∧
      Reported e videoId skipped s t := by
  cases e with
  | none =>
    refine ⟨s, rfl, fun _ => rfl, ?_, ?_⟩
    · rintro _ ⟨⟩
    · rintro _ ⟨⟩
  | some x =>
    let reports := skipped.map unmeasuredReport
    have htell : (x.tellAll videoId reports s).1 = .ok () :=
      x.tellAll_ok videoId (he x rfl) reports s
    refine ⟨(x.tellAll videoId reports s).2, Run.bind_of_fst htell _, ?_, ?_, ?_⟩
    · rintro ⟨⟩
    · rintro _ ⟨⟩
      rfl
    · rintro _ ⟨⟩ hrec
      rw [x.tellAll_recording videoId hrec reports s, List.map_map]
      rfl

end Manifest

open Manifest

/-- **All or nothing, and why.** Either no representation of a manifest is broken, or there is a
first broken one. In the former case the manifest gives one format for every representation that
describes one, in document order; those without a length in their address are skipped. In the latter
case the first broken one is the error, and there are no formats. Either way the representations
that were skipped so far are reported, each once and in order. -/
theorem readManifest_accounts (document : Element) (e : Option Extractor)
    (he : ∀ x ∈ e, x.reporting.Working) (videoId : Value) (s : Session) :
    let run := readManifest e document videoId s
    (Unbroken (pairs document) ∨ ∃ before text cause, BreaksAt (pairs document) before text cause) ∧
      (Unbroken (pairs document) → ∃ formats skipped, Accounts (pairs document) formats skipped ∧
        run.1 = .ok formats ∧ Reported e videoId skipped s run.2) ∧
      ∀ before text cause, BreaksAt (pairs document) before text cause →
        ∃ formats skipped, Accounts before formats skipped ∧
          run.1 = .error (.extractor text cause videoId
            ((e.map Extractor.nameValue).getD .null)) ∧
          Reported e videoId skipped s run.2 := by
  intro run
  refine ⟨unbroken_or_breaksAt _, fun h => ?_, fun before text cause hb => ?_⟩
  · obtain ⟨formats, skipped, haccounts⟩ := exists_accounts h
    obtain ⟨t, hdeliver, hreported⟩ := deliver_eq he videoId formats skipped s
    have hrun : run = (.ok formats, t) := by
      show readManifest e document videoId s = _
      rw [readManifest, haccounts.read_eq]
      exact Run.bind_of_ok hdeliver _
    rw [hrun]
    exact ⟨formats, skipped, haccounts, rfl, hreported⟩
  · obtain ⟨formats, skipped, haccounts⟩ := exists_accounts hb.unbroken
    obtain ⟨t, hdeliver, hreported⟩ := deliver_eq he videoId formats skipped s
    obtain ⟨flaw, hread, hflaw⟩ := haccounts.read_eq_of_breaksAt hb
    have hrun : run =
        (.error (flaw.toFailure videoId ((e.map Extractor.nameValue).getD .null)), t) := by
      show readManifest e document videoId s = _
      rw [readManifest, hread]
      exact Run.bind_of_ok hdeliver _
    rw [hrun, hflaw]
    exact ⟨formats, skipped, haccounts, rfl, hreported⟩

/-- Of the representations in a set one gives a format and one is skipped. If two broken ones
follow, the first of them is the error, and the same is reported. -/
theorem readManifest_accounts_of_broken :
    let address (text : String) : Node := .element (.mk "BaseURL" [] [.text text])
    let measured : Element := .mk "\x7bu\x7dRepresentation" [("mimeType", "audio/mp4"),
      ("codecs", "opus"), ("bandwidth", "7")] [address " http://x/clen/10/a\n"]
    let unmeasured : Element := .mk "Representation" [("bandwidth", "fast")] [address "http://x/b"]
    let fast : Element := .mk "Representation" [("bandwidth", "fast")] [address "http://x/clen/9/c"]
    let blank : Element := .mk "Representation" [("id", "4")] [address " "]
    let set (representations : List Element) : Element := .mk "AdaptationSet"
      [("mimeType", "audio/webm"), ("codecs", "vorbis")] (representations.map .element)
    let short := set [measured, unmeasured]
    let long := set [measured, unmeasured, fast, blank]
    let e : Extractor := .ofSettings (some "youtube")
      [("logger", .recorder true), ("verbose", .value (.bool true))]
    let run (document : Element) := readManifest (some e) document (.str "abc") {}
    let journal : List Report := [.debug ("[debug] [youtube] abc: Skipping format " ++
      "audio/webm; codecs=vorbis because the content length is missing")]
    (run short).1 = .ok
        [⟨"audio/webm; codecs=opus", 7, 10, "http://x/clen/10/a", none, defaultSignatureKey⟩] ∧
      (run short).2.journal = journal ∧
      (run long).1 = .error (.extractor
        "Invalid bandwidth 'fast' for format audio/webm; codecs=vorbis"
        (.failure (.fault (.badInteger "fast"))) (.str "abc") (.str "youtube")) ∧
      (run long).2.journal = journal := by
  intro address measured unmeasured fast blank set short long e run journal
  have he : ∀ x ∈ some e, x.reporting.Working := by
    rintro x ⟨⟩ _ ⟨⟩
  have hshort : pairs short = [(short, measured), (short, unmeasured)] := by
    simp [short, set, measured, unmeasured, address, pairs, Element.named, Element.elements,
      Node.elements, localName, Element.tag]
  have hlong : pairs long =
      [(long, measured), (long, unmeasured)] ++ (long, fast) :: [(long, blank)] := by
    simp [long, set, measured, unmeasured, fast, blank, address, pairs, Element.named,
      Element.elements, Node.elements, localName, Element.tag]
  have haccounts (representations : List Element) :
      Accounts [(set representations, measured), (set representations, unmeasured)]
        [⟨"audio/webm; codecs=opus", 7, 10, "http://x/clen/10/a", none, defaultSignatureKey⟩]
        ["audio/webm; codecs=vorbis"] := by
    have hu : url? measured = some "http://x/clen/10/a" := by decide +kernel +zetaReduce
    have hn : Format.lengthInUrl? "/clen/" "/" "http://x/clen/10/a" = some 10 := by decide +kernel
    have hb : (Value.str "7").toInt? = some 7 := by decide +kernel
    have hskipped : Unmeasured unmeasured :=
      unmeasured_iff.mpr ⟨"http://x/b", by decide +kernel +zetaReduce, by decide +kernel⟩
    exact .format ⟨url?_eq_some_iff.mp hu, lengthInUrl?_eq_some_iff.mp hn, ⟨"7", rfl, hb⟩,
      namesType_iff.mpr rfl, rfl, rfl⟩ (.unmeasured hskipped (namesType_iff.mpr rfl) .nil)
  have hbroken : Broken long fast
      "Invalid bandwidth 'fast' for format audio/webm; codecs=vorbis"
      (.failure (.fault (.badInteger "fast"))) := by
    have hu : url? fast = some "http://x/clen/9/c" := by decide +kernel +zetaReduce
    have hn : Format.lengthInUrl? "/clen/" "/" "http://x/clen/9/c" = some 9 := by decide +kernel
    have hb : (Value.ofOption (fast.get? "bandwidth")).integer = .error (.badInteger "fast") := rfl
    exact .badBandwidth (url?_eq_some_iff.mp hu) (lengthInUrl?_eq_some_iff.mp hn)
      (forall_not_statesBandwidth hb) hb (namesType_iff.mpr rfl)
  obtain ⟨-, hwhole, -⟩ := readManifest_accounts short (some e) he (.str "abc") {}
  obtain ⟨-, -, hpart⟩ := readManifest_accounts long (some e) he (.str "abc") {}
  rw [hshort] at hwhole
  obtain ⟨formats, skipped, hread, hok, hreported⟩ := hwhole (haccounts _).unbroken
  obtain ⟨rfl, rfl⟩ := (haccounts _).unique hread
  obtain ⟨formats, skipped, hread, herror, hreported'⟩ :=
    hpart _ _ _ ⟨(haccounts _).unbroken, long, fast, [(long, blank)], hlong, hbroken⟩
  obtain ⟨rfl, rfl⟩ := (haccounts _).unique hread
  have hrec : e.reporting.Recording := ⟨rfl, rfl⟩
  refine ⟨hok, ?_, herror, ?_⟩
  · rw [hreported.recorded e rfl hrec]
    rfl
  · rw [hreported'.recorded e rfl hrec]
    rfl

end PlayerPage
