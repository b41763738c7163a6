import PlayerPage.Proofs.Decimal
import PlayerPage.Proofs.Format.Uniform
import PlayerPage.Proofs.Format.WellFormed
import PlayerPage.Proofs.Lookup

/-!
Lists of formats, written and read.

* `Format.WritesAmong`: the ways to write fields in any order and among others.
* `Format.Writable`: the formats that a form text can describe; `Format.flatFields`: the fields that
  do so.
* `Format.WritesItem`: the ways to write a format, with its fields in any order and among others;
  `Format.ofFlatItem_of_writes`: each is read as this format.
* `Listing.ofFlat_written`: a list that was written has the formats that were written, in order.
-/

namespace PlayerPage

namespace Format

/-! ### Fields among others -/

/-- The ways to write some fields: in any order, possibly with fields of further names. -/
def WritesAmong (names : List String) (fields : List (String × String)) (w : List Char) : Prop :=
  ∃ form others, form.Perm (fields ++ others) ∧ (∀ x ∈ others, x.1 ∉ names) ∧
    Form.Writes false form w

namespace WritesAmong

variable {names : List String} {fields : List (String × String)} {w : List Char}

/-- As far as the names go, there are the fields that were written and no others. -/
lemma textOf_eq (h : WritesAmong names fields w) (hn : (fields.map Prod.fst).Nodup)
    {name : String} (hname : name ∈ names) :
    textOf (Form.fields w) name = textOf fields name := by
  obtain ⟨form, others, hperm, hothers, hw⟩ := h
  rw [Form.fields_of_writes hw, textOf, textOf, Form.get?_congr hn]
  intro value
  rw [hperm.mem_iff, List.mem_append, or_iff_left]
  exact fun hm => hothers (name, value) hm hname

/-- What fields were written as has no comma in it, and is not empty. -/
lemma separable (h : WritesAmong names fields w) (hne : fields ≠ []) : w ≠ [] ∧ ',' ∉ w := by
  obtain ⟨form, others, hperm, -, hw⟩ := h
  refine ⟨?_, hw.not_mem ',' rfl (by decide) (by decide)⟩
  cases form with
  | nil =>
    have he := hperm.symm.eq_nil
    exact absurd (List.append_eq_nil_iff.mp he).1 hne
  | cons => exact hw.ne_nil

end WritesAmong

/-! ### Formats -/

open Decimal

/-- A format that a form text can describe: a well-formed one whose numbers do not have too many
digits to be read. -/
structure Writable (f : Format) : Prop extends f.WellFormed where
  bitrate : (Integer.digits f.bitrate).length ≤ Integer.maxDigits
  contentLength : (Integer.digits f.contentLength).length ≤ Integer.maxDigits

/-- The names of the fields that describe a format. -/
def flatNames : List String :=
  ["type", "bitrate", "clen", "url", "sp", "s"]

/-- The text of an integer. -/
def integerText (n : Int) : String :=
  String.ofList (Integer.render n)

/-- The fields that describe a format. -/
def flatFields (f : Format) : List (String × String) :=
  [("type", f.contentType), ("bitrate", integerText f.bitrate),
    ("clen", integerText f.contentLength), ("url", f.url), ("sp", f.signatureKey)] ++
    (f.signature.map fun s => ("s", s)).toList

/-- The ways to write a format: its fields in any order, possibly with fields of other names. -/
def WritesItem (f : Format) (w : List Char) : Prop :=
  WritesAmong flatNames f.flatFields w

variable {f : Format} {w : List Char}

lemma flatFields_nodup (f : Format) : (f.flatFields.map Prod.fst).Nodup := by
  rw [flatFields]
  cases f.signature <;> simp

/-- The texts of the fields of a format. -/
lemma textOf_flatFields (f : Format) :
    textOf f.flatFields "type" = f.contentType ∧
      textOf f.flatFields "bitrate" = integerText f.bitrate ∧
      textOf f.flatFields "clen" = integerText f.contentLength ∧
      textOf f.flatFields "url" = f.url ∧
      textOf f.flatFields "s" = f.signature.getD "" ∧
      textOf f.flatFields "sp" = f.signatureKey := by
  simp only [textOf, flatFields]
  cases f.signature <;> exact ⟨rfl, rfl, rfl, rfl, rfl, rfl⟩

lemma filled?_of_ne {s : String} (h : s ≠ "") : filled? s = some s :=
  if_neg h

/-- The texts of a writable format make up this format. -/
lemma Writable.ofTexts?_eq (h : f.Writable) :
    ofTexts? f.contentType (integerText f.bitrate) (integerText f.contentLength) f.url
      (f.signature.getD "") f.signatureKey = some f := by
  have ht : typed? f.contentType = some f.contentType := if_pos h.contentType
  have hs : filled? (f.signature.getD "") = f.signature := by
    cases hs : f.signature with
    | none => rfl
    | some s =>
      refine filled?_of_ne ?_
      rintro rfl
      exact h.signature hs
  rw [ofTexts?, ht, integerText, integerText, Value.toInt?_render h.bitrate,
    Value.toInt?_render h.contentLength, filled?_of_ne h.url, hs, filled?_of_ne h.signatureKey]
  rfl

/-- A form text that a format was written as describes this format. -/
lemma ofFlatItem_of_writes (hf : f.Writable) (h : f.WritesItem w) :
    ofFlatItem (String.ofList w) = .ok f := by
  have htext {name : String} (hname : name ∈ flatNames) :
      textOf (Form.fields w) name = textOf f.flatFields name :=
    WritesAmong.textOf_eq h f.flatFields_nodup hname
  obtain ⟨ht, hb, hc, hu, hs, hk⟩ := f.textOf_flatFields
  apply eq_ok_of_toOption
  rw [ofFlatItem, String.toList_ofList, ofFlatFields_toOption,
    htext (by decide), htext (by decide), htext (by decide), htext (by decide),
    htext (by decide), htext (by decide), ht, hb, hc, hu, hs, hk, hf.ofTexts?_eq]

/-- What a format was written as has no comma in it, and is not empty. -/
lemma WritesItem.separable (h : f.WritesItem w) : w ≠ [] ∧ ',' ∉ w :=
  WritesAmong.separable h (by simp [flatFields])

end Format

/-! ### Lists -/

namespace Listing

/-- Texts without commas, joined by commas, are the items. -/
lemma flatItems_intercalate {items : List (List Char)} (h : ∀ w ∈ items, w ≠ [] ∧ ',' ∉ w) :
    flatItems (String.ofList ([','].intercalate items)) = items.map String.ofList := by
  have hone (w : List Char) (hw : w ≠ [] ∧ ',' ∉ w) :
      flatItems (String.ofList w) = [String.ofList w] := by
    rw [flatItems_of_not_mem (by simpa using hw.2), if_neg (by simpa using hw.1)]
  induction items with
  | nil => rfl
  | cons w items ih =>
    have hw := hone w (h w List.mem_cons_self)
    cases items with
    | nil => rw [List.intercalate_singleton, hw]; rfl
    | cons v items =>
      have hsplit : String.ofList ([','].intercalate (w :: v :: items)) =
          String.ofList w ++ "," ++ String.ofList ([','].intercalate (v :: items)) := by
        rw [List.intercalate_cons_cons, String.ofList_append, String.ofList_append]
      rw [hsplit, flatItems_append, hw, ih fun x hx => h x (List.mem_cons_of_mem _ hx)]
      rfl

/-- A list all of whose items give a format is a listing without reports. -/
lemma build_of_forall₂ (source : String) {rule : Value → Except Drop Format} {items : List Value}
    {formats : List Format} (h : List.Forall₂ (fun item f => rule item = .ok f) items formats) :
    build source rule items = ⟨formats, []⟩ := by
  have hf : items.filterMap (format? rule) = formats := by
    induction h with
    | nil => rfl
    | cons h _ ih => rw [List.filterMap_cons_some (by rw [format?, h]; rfl), ih]
  have hr : items.filterMap (report? source rule) = [] := by
    clear hf
    induction h with
    | nil => rfl
    | cons h _ ih => rw [List.filterMap_cons_none (by rw [report?, h]), ih]
  simp [build, hf, hr]

/-- **Lists there and back.** Writable formats that are written with their fields in any order,
possibly with further fields, and with commas between the formats, are what is read from the whole
text, in order; nothing is reported, and nothing else happens. -/
theorem ofFlat_written {formats : List Format} {items : List (List Char)}
    (hf : ∀ f ∈ formats, f.Writable) (hw : List.Forall₂ Format.WritesItem formats items)
    (e : Option Extractor) (videoId : Value) (s : Session) :
    (ofFlat (.str (String.ofList ([','].intercalate items)))).deliver e videoId s =
      (.ok formats, s) := by
  have hseparable : ∀ w ∈ items, w ≠ [] ∧ ',' ∉ w := by
    clear hf
    induction hw with
    | nil => simp
    | cons h _ ih =>
      rintro w (_ | ⟨_, hm⟩)
      · exact h.separable
      · exact ih w hm
  have hrules : List.Forall₂ (fun item f => ListSchema.flat.rule item = .ok f)
      ((items.map String.ofList).map .str) formats := by
    clear hseparable
    induction hw with
    | nil => exact .nil
    | cons h _ ih =>
      refine .cons (Format.ofFlatItem_of_writes (hf _ List.mem_cons_self) h) (ih fun g hg => ?_)
      exact hf g (List.mem_cons_of_mem _ hg)
  have hlisting : ofFlat (.str (String.ofList ([','].intercalate items))) = ⟨formats, []⟩ := by
    rw [← build_of_forall₂ ListSchema.flat.source hrules, ← flatItems_intercalate hseparable]
    rfl
  rw [hlisting]
  cases e <;> rfl

/-- Two formats whose texts have marks and further characters in them, the second one with its
fields in another order and a further field, are read as they were written. -/
theorem ofFlat_written_of_two :
    let f : Format :=
      ⟨"video/mp4; codecs=\"a,b\"", -40, 10, "http://x/?a=1,2&b=%C3+é\\", none, "sp"⟩
    let g : Format := ⟨"audio/webm", 70, 0, "😀", some "s&=,", "é"⟩
    let first := Form.write ['&'] f.flatFields
    let second := Form.write ['&'] (g.flatFields.reverse ++ [("quality", "small")])
    f.Writable ∧ g.Writable ∧ f.WritesItem first ∧ g.WritesItem second ∧
      String.ofList second = "s=s%26%3d%2c&sp=%c3%a9&url=%f0%9f%98%80&clen=0&bitrate=70&" ++
        "type=audio%2fwebm&quality=small" ∧
      (ofFlat (.str (String.ofList ([','].intercalate [first, second])))).deliver none
        (.str "abc") {} = (.ok [f, g], {}) := by
  intro f g first second
  have hf : f.Writable := ⟨⟨⟨by decide, by decide, by decide⟩, by decide⟩, by decide, by decide⟩
  have hg : g.Writable := ⟨⟨⟨by decide, by decide, by decide⟩, by decide⟩, by decide, by decide⟩
  have hfirst : f.WritesItem first :=
    ⟨f.flatFields, [], by simp, by simp, Form.writes_write .plain _⟩
  have hsecond : g.WritesItem second :=
    ⟨_, [("quality", "small")], (List.reverse_perm _).append_right _, by decide,
      Form.writes_write .plain _⟩
  have hwritable : ∀ x ∈ [f, g], x.Writable := by
    rintro x (_ | ⟨_, _ | ⟨_, ⟨⟩⟩⟩)
    · exact hf
    · exact hg
  exact ⟨hf, hg, hfirst, hsecond, by decide,
    ofFlat_written hwritable (.cons hfirst (.cons hsecond .nil)) none (.str "abc") {}⟩

end Listing

end PlayerPage
