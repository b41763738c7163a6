import PlayerPage.Proofs.Format.Written
import PlayerPage.Proofs.Text.Search

/-!
Lists of descriptors that name a quality, written and read.

* `Descriptor`: the five texts that count in a form text of this schema;
  `Descriptor.Writes`: the ways to write them as fields, in any order and among others.
* `Descriptor.Usable`, `Descriptor.format`: which descriptors give a format, and which one;
  `Descriptor.format?_eq_some_iff` finds it, and `Descriptor.ofStreamFields_toOption` says that a
  form text gives no other.
* `Descriptor.Keeps`: the formats of the usable descriptors of a list, in order.
* `Listing.ofStreamMap_formats`: every text, item by item; `Listing.ofStreamMap_written`: a list
  that was written has the formats of its usable descriptors.
-/

namespace PlayerPage

/-- What counts in a form text that names a quality: the length of the format is only in the
address. -/
structure Descriptor where
  url : String
  contentType : String
  quality : String
  signature : String
  signatureKey : String
  deriving DecidableEq, Repr

namespace Descriptor

open Format

/-- The names of the fields of a descriptor. -/
def names : List String :=
  ["url", "type", "quality", "s", "sp"]

/-- The fields of a descriptor. -/
def fields (d : Descriptor) : List (String × String) :=
  [("url", d.url), ("type", d.contentType), ("quality", d.quality), ("s", d.signature),
    ("sp", d.signatureKey)]

/-- The ways to write a descriptor: its fields in any order, possibly with fields of other names. -/
def Writes (d : Descriptor) (w : List Char) : Prop :=
  WritesAmong names d.fields w

/-- The descriptor in a form, where a missing field counts as empty. -/
def ofForm (form : List (String × String)) : Descriptor :=
  ⟨textOf form "url", textOf form "type", textOf form "quality", textOf form "s", textOf form "sp"⟩

/-- A descriptor gives a format of a length: its type is a content type, and its address holds this
length between `clen=` and an ampersand. -/
structure Usable (d : Descriptor) (contentLength : Int) : Prop where
  contentType : (ContentType.parse? d.contentType.toList).isSome = true
  contentLength : HoldsLength "clen=" "&" d.url contentLength

/-- The format of a length that a descriptor gives. -/
def format (d : Descriptor) (contentLength : Int) : Format where
  contentType := d.contentType
  bitrate := qualityBitrate d.quality
  contentLength := contentLength
  url := d.url
  signature := filled? d.signature
  signatureKey := (filled? d.signatureKey).getD defaultSignatureKey

/-! ### One descriptor -/

/-- The format that a descriptor gives, if any. -/
def format? (d : Descriptor) : Option Format := do
  let contentLength ← lengthInUrl? "clen=" "&" d.url
  let _ ← typed? d.contentType
  some (d.format contentLength)

variable {d : Descriptor} {w : List Char}

/-- Exactly the usable descriptors give a format. -/
lemma format?_eq_some_iff {f : Format} : d.format? = some f ↔ ∃ n, d.Usable n ∧ f = d.format n := by
  rw [format?]
  constructor
  · intro h
    obtain ⟨n, hn, h⟩ := Option.bind_eq_some_iff.mp h
    obtain ⟨_, ht, hf⟩ := Option.bind_eq_some_iff.mp h
    have htype : (ContentType.parse? d.contentType.toList).isSome = true := by
      by_contra hnone
      rw [typed?, if_neg hnone] at ht
      cases ht
    exact ⟨n, ⟨htype, lengthInUrl?_eq_some_iff.mp hn⟩, (Option.some.inj hf).symm⟩
  · rintro ⟨n, ⟨htype, hlength⟩, rfl⟩
    rw [lengthInUrl?_eq_some_iff.mpr hlength, typed?, if_pos htype]
    rfl

lemma format?_eq_none_iff : d.format? = none ↔ ∀ n, ¬ d.Usable n := by
  rw [Option.eq_none_iff_forall_ne_some]
  constructor
  · exact fun h n hn => h _ (format?_eq_some_iff.mpr ⟨n, hn, rfl⟩)
  · intro h f hf
    obtain ⟨n, hn, -⟩ := format?_eq_some_iff.mp hf
    exact h n hn

/-- Nothing can be found in an empty address. -/
lemma filled?_bind_length {α : Type} (s : String) (k : String → Int → Option α) :
    ((filled? s).bind fun url => (lengthInUrl? "clen=" "&" url).bind (k url)) =
      (lengthInUrl? "clen=" "&" s).bind (k s) := by
  rw [filled?]
  split_ifs with hs
  · subst hs
    rfl
  · rfl

/-- What a form text with a named quality gives is what its descriptor gives. -/
lemma ofStreamFields_toOption (form : List (String × String)) :
    (ofStreamFields form).toOption = (ofForm form).format? := by
  let d := ofForm form
  let given (url : String) (n : Int) : Option Format :=
    (typed? d.contentType).bind fun _ => some { d.format n with url }
  have hformat : d.format? = (lengthInUrl? "clen=" "&" d.url).bind (given d.url) := rfl
  rw [ofStreamFields, toOption_bind, requiredText_toOption, hformat, ← filled?_bind_length]
  refine congrArg (Option.bind _) (funext fun url => ?_)
  cases lengthInUrl? "clen=" "&" url with
  | none => rfl
  | some n =>
    have hs : signatureOf form = filled? d.signature := nonempty?_eq form "s"
    have hk : signatureKeyOf form = (filled? d.signatureKey).getD defaultSignatureKey := by
      rw [signatureKeyOf, nonempty?_eq]
      rfl
    simp only [toOption_bind, requiredText_toOption, checkedContentType_toOption]
    rw [← Option.bind_assoc, filled?_bind_typed?, hs, hk]
    show (typed? d.contentType).bind _ = (typed? d.contentType).bind _
    rw [typed?]
    split_ifs <;> rfl

/-- A descriptor is read as it was written. -/
lemma Writes.ofForm_eq (h : d.Writes w) : ofForm (Form.fields w) = d := by
  have hn : (d.fields.map Prod.fst).Nodup := by simp [fields]
  have htext {name : String} (hname : name ∈ names) :
      textOf (Form.fields w) name = textOf d.fields name :=
    WritesAmong.textOf_eq h hn hname
  rw [ofForm, htext (by decide), htext (by decide), htext (by decide), htext (by decide),
    htext (by decide)]
  rfl

/-- What a descriptor was written as has no comma in it, and is not empty. -/
lemma Writes.separable (h : d.Writes w) : w ≠ [] ∧ ',' ∉ w :=
  WritesAmong.separable h (by simp [fields])

/-! ### Lists of descriptors -/

/-- The formats of the usable descriptors of a list, in order; the other descriptors are dropped. -/
inductive Keeps : List Descriptor → List Format → Prop
  | nil : Keeps [] []
  | kept {d : Descriptor} {n : Int} {ds : List Descriptor} {formats : List Format}
      (h : d.Usable n) (hs : Keeps ds formats) : Keeps (d :: ds) (d.format n :: formats)
  | dropped {d : Descriptor} {ds : List Descriptor} {formats : List Format}
      (h : ∀ n, ¬ d.Usable n) (hs : Keeps ds formats) : Keeps (d :: ds) formats

/-- What is kept of a list is what its descriptors give. -/
lemma keeps_iff {ds : List Descriptor} {formats : List Format} :
    Keeps ds formats ↔ formats = ds.filterMap format? := by
  constructor
  · intro h
    induction h with
    | nil => rfl
    | kept h _ ih => rw [List.filterMap_cons_some (format?_eq_some_iff.mpr ⟨_, h, rfl⟩), ih]
    | dropped h _ ih => rw [List.filterMap_cons_none (format?_eq_none_iff.mpr h), ih]
  · rintro rfl
    induction ds with
    | nil => exact .nil
    | cons d ds ih =>
      cases hd : d.format? with
      | none =>
        rw [List.filterMap_cons_none hd]
        exact .dropped (format?_eq_none_iff.mp hd) ih
      | some f =>
        obtain ⟨n, hn, rfl⟩ := format?_eq_some_iff.mp hd
        rw [List.filterMap_cons_some hd]
        exact .kept hn ih

end Descriptor

namespace Listing

/-- The formats of a text are those of the descriptors between its commas. -/
lemma ofStreamMap_formats (t : String) :
    (ofStreamMap (.str t)).formats =
      ((flatItems t).map fun item => Descriptor.ofForm (Form.fields item.toList)).filterMap
        Descriptor.format? := by
  have hrule (item : String) : format? (ofText Format.ofStreamItem) (.str item) =
      (Descriptor.ofForm (Form.fields item.toList)).format? :=
    Descriptor.ofStreamFields_toOption _
  show ((flatItems t).map Value.str).filterMap (format? (ofText Format.ofStreamItem)) = _
  rw [List.filterMap_map, List.filterMap_map]
  exact congrArg (List.filterMap · _) (funext hrule)

/-- **Descriptors kept and dropped.** Whatever texts descriptors are made of, if they are written
with their fields in any order, possibly with further fields such as a length, and with commas
between the descriptors, then the whole text gives one format for each usable one, in order, and
nothing for any other. -/
theorem ofStreamMap_written {ds : List Descriptor} {items : List (List Char)}
    (hw : List.Forall₂ Descriptor.Writes ds items) (e : Option Extractor)
    (he : ∀ x ∈ e, x.reporting.Working) (videoId : Value) (s : Session) :
    ∃ formats,
      ((ofStreamMap (.str (String.ofList ([','].intercalate items)))).deliver e videoId s).1 =
        .ok formats ∧ Descriptor.Keeps ds formats := by
  have hseparable : ∀ w ∈ items, w ≠ [] ∧ ',' ∉ w := by
    have hitems : List.Forall₂ (fun w d => d.Writes w) items ds :=
      List.Forall₂.flip (R := fun w (d : Descriptor) => d.Writes w) hw
    exact ((List.forall₂_and_left _ _).mp (hitems.imp fun _ _ h => ⟨h.separable, h⟩)).1
  have hread : (items.map String.ofList).map
      (fun item => Descriptor.ofForm (Form.fields item.toList)) = ds := by
    clear hseparable
    induction hw with
    | nil => rfl
    | cons h _ ih =>
      rw [List.map_cons, List.map_cons, String.toList_ofList, h.ofForm_eq, ih]
  refine ⟨ds.filterMap Descriptor.format?, ?_, Descriptor.keeps_iff.mpr rfl⟩
  rw [deliver_of_working _ videoId he, ofStreamMap_formats, flatItems_intercalate hseparable, hread]

/-- Of five descriptors, each with a further field of a length, the first and the last one are kept.
The others have no ampersand after the length, letters in the first length, and no content type. -/
theorem ofStreamMap_written_of_lengths :
    let type := "video/mp4; codecs=\"a,b\""
    let ds : List Descriptor := [⟨"http://x/?clen=10&clen=20&", type, "medium", "", ""⟩,
      ⟨"http://x/?a&clen=10", type, "small", "", ""⟩, ⟨"clen=1x&clen=5&", type, "", "s", "sp"⟩,
      ⟨"clen=5&", "video", "hd720", "", ""⟩, ⟨"?a=,&clen= -1_0&%=é", type, "?", "s&=,", "é"⟩]
    let items := ds.map fun d => Form.write ['&'] (("clen", "30") :: d.fields)
    List.Forall₂ Descriptor.Writes ds items ∧
      items[3]? = some "clen=30&url=clen%3d5%26&type=video&quality=hd720&s=&sp=".toList ∧
      ((ofStreamMap (.str (String.ofList ([','].intercalate items)))).deliver none (.str "abc")
        {}).1 = .ok [⟨type, -5, 10, "http://x/?clen=10&clen=20&", none, "signature"⟩,
          ⟨type, -1, -10, "?a=,&clen= -1_0&%=é", some "s&=,", "é"⟩] := by
  intro type ds items
  have hwrites (d : Descriptor) : d.Writes (Form.write ['&'] (("clen", "30") :: d.fields)) :=
    ⟨_, [("clen", "30")], (List.perm_append_singleton _ _).symm, by decide,
      Form.writes_write .plain _⟩
  have hw : List.Forall₂ Descriptor.Writes ds items :=
    List.forall₂_map_right_iff.mpr (List.forall₂_same.mpr fun d _ => hwrites d)
  obtain ⟨formats, hf, hkeeps⟩ := ofStreamMap_written hw none (by simp) (.str "abc") {}
  refine ⟨hw, by decide, hf.trans (congrArg _ ?_)⟩
  rw [Descriptor.keeps_iff.mp hkeeps]
  decide

end Listing

end PlayerPage
