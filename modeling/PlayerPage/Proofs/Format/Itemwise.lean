import Mathlib.Data.List.Basic
import PlayerPage.Format.Listing
import PlayerPage.Proofs.Run

/-!
Lists of descriptions, one description at a time.

* `Listing.flatItems_append`, `Listing.flatItems_of_mem`: the items of a text with commas.
* `Listing.remarks`: the debug messages about a list; `Listing.build_reports`: they are followed by
  a warning exactly if every description was dropped.
* `ListSchema`: the schemas of lists, by what each makes of a field: `ListSchema.items`,
  `ListSchema.listing`, and the field that has one item alone in it.
* `ListSchema.own_cases`: an item alone gives a format or a debug message about it.
* `ListSchema.listing_itemwise`: a list gives what its items give by themselves, in order, and all
  of its reports are accounted for.
-/

namespace PlayerPage

open Text

/-! ### Items between commas -/

namespace Listing

/-- The items of two texts with a comma between them. -/
lemma flatItems_append (s t : String) :
    flatItems (s ++ "," ++ t) = flatItems s ++ flatItems t := by
  have h : (s ++ "," ++ t).toList = s.toList ++ ',' :: t.toList := by simp
  rw [flatItems, h, pieces_append, List.filter_append, List.map_append, flatItems, flatItems]

/-- A text without a comma is one item, unless it is empty. -/
lemma flatItems_of_not_mem {s : String} (h : ',' ∉ s.toList) :
    flatItems s = if s = "" then [] else [s] := by
  rw [flatItems, pieces_of_not_mem h]
  by_cases hs : s = ""
  · simp [hs]
  · simp [hs]

/-- An item is the only item of itself. -/
lemma flatItems_of_mem {s item : String} (h : item ∈ flatItems s) : flatItems item = [item] := by
  obtain ⟨piece, hp, rfl⟩ := List.mem_map.mp h
  obtain ⟨hp, hne⟩ := List.mem_filter.mp hp
  have hc : ',' ∉ (String.ofList piece).toList := by
    rw [String.toList_ofList]
    exact not_mem_of_mem_pieces hp
  rw [flatItems_of_not_mem hc, if_neg]
  intro he
  have hnil : piece = [] := by
    rw [← String.toList_ofList (l := piece), he]
    rfl
  simp [hnil] at hne

/-! ### Formats and reports -/

variable (source : String) (rule : Value → Except Drop Format)

/-- The debug messages among the reports. -/
def remarks (listing : Listing) : List Report :=
  listing.reports.filter (·.level = .debug)

lemma dropReport_level (item : Value) (drop : Drop) :
    (dropReport source item drop).level = .debug := by
  cases drop <;> rfl

lemma report?_level {item : Value} {r : Report} (h : report? source rule item = some r) :
    r.level = .debug := by
  rw [report?] at h
  split at h
  · cases h
  · cases h
    exact dropReport_level source item _

/-- The debug messages about a list are those about the descriptions that give no format. -/
lemma build_remarks (items : List Value) :
    (build source rule items).remarks = items.filterMap (report? source rule) := by
  have hdrops : (items.filterMap (report? source rule)).filter (·.level = .debug) =
      items.filterMap (report? source rule) := by
    rw [List.filter_eq_self]
    intro r hr
    obtain ⟨item, -, hi⟩ := List.mem_filterMap.mp hr
    simpa using report?_level source rule hi
  rw [remarks, build]
  split_ifs
  · rw [List.filter_append, hdrops]
    simp [allDropped, Report.warning]
  · exact hdrops

/-- After the debug messages about a list there is one warning, with the number of all items, if
there are no formats although there is a debug message, and nothing otherwise. -/
lemma build_reports (items : List Value) :
    let listing := build source rule items
    listing.reports = listing.remarks ++
      if listing.formats = [] ∧ listing.remarks ≠ [] then [allDropped source items.length]
      else [] := by
  intro listing
  have hr : listing.remarks = items.filterMap (report? source rule) :=
    build_remarks source rule items
  have hreports : listing.reports =
      if listing.formats.isEmpty && !listing.remarks.isEmpty then
        listing.remarks ++ [allDropped source items.length]
      else listing.remarks := by
    rw [hr]
    rfl
  rw [hreports]
  by_cases h : listing.formats = [] ∧ listing.remarks ≠ []
  · rw [if_pos h, if_pos (by simpa using h)]
  · rw [if_neg h, if_neg (by simpa using h), List.append_nil]

end Listing

/-! ### Schemas -/

/-- The schemas in which a page lists descriptions of formats: form texts with commas between them,
which hold all there is or name a quality, and objects in a list. -/
inductive ListSchema where
  | flat
  | streamMap
  | streaming
  deriving DecidableEq, Repr

namespace ListSchema

open Listing

/-- The listing of what a field holds. -/
def listing : ListSchema → Value → Listing
  | flat => ofFlat
  | streamMap => ofStreamMap
  | streaming => ofStreaming

/-- The name that reports use. -/
def source : ListSchema → String
  | flat => FormatSource.adaptive.name
  | streamMap => FormatSource.streamMap.name
  | streaming => "streamingData"

/-- What an item gives. -/
def rule : ListSchema → Value → Except Drop Format
  | flat => ofText Format.ofFlatItem
  | streamMap => ofText Format.ofStreamItem
  | streaming => Format.ofStreamingItem

/-- The items in what a field holds. -/
def items : ListSchema → Value → List Value
  | flat, v | streamMap, v => (flatItemsOf v).map .str
  | streaming, .list xs => xs
  | streaming, _ => []

/-- What a field holds that has one item alone in it. -/
def alone : ListSchema → Value → Value
  | flat, item | streamMap, item => item
  | streaming, item => .list [item]

/-- What an item gives by itself. -/
def own (schema : ListSchema) (item : Value) : Listing :=
  schema.listing (schema.alone item)

/-- A field that holds what two fields hold, one after the other. -/
inductive Joins : ListSchema → Value → Value → Value → Prop
  | flat (s t : String) : Joins flat (.str s) (.str t) (.str (s ++ "," ++ t))
  | streamMap (s t : String) : Joins streamMap (.str s) (.str t) (.str (s ++ "," ++ t))
  | streaming (xs ys : List Value) : Joins streaming (.list xs) (.list ys) (.list (xs ++ ys))

variable (schema : ListSchema)

lemma listing_eq_build (v : Value) :
    schema.listing v = build schema.source schema.rule (schema.items v) := by
  cases schema with
  | flat | streamMap => rfl
  | streaming => cases v <;> rfl

variable {schema} in
/-- An item alone is the only one. -/
lemma items_alone {v item : Value} (h : item ∈ schema.items v) :
    schema.items (schema.alone item) = [item] := by
  cases schema with
  | flat | streamMap =>
    obtain ⟨s, hs, rfl⟩ := List.mem_map.mp h
    cases v with
    | str t => exact congrArg (List.map Value.str) (flatItems_of_mem hs)
    | null | bool | int | float | bytes | list | tuple | object => cases hs
  | streaming => rfl

variable {schema} in
/-- The items of two fields are those of the one and those of the other. -/
lemma Joins.items_eq {v w u : Value} (h : schema.Joins v w u) :
    schema.items u = schema.items v ++ schema.items w := by
  cases h with
  | flat s t | streamMap s t =>
    show (flatItems (s ++ "," ++ t)).map Value.str = _
    rw [flatItems_append, List.map_append]
    rfl
  | streaming xs ys => rfl

variable {schema} in
/-- An item gives by itself what the schema says. -/
lemma own_eq {v item : Value} (h : item ∈ schema.items v) :
    (schema.own item).formats = (format? schema.rule item).toList ∧
      (schema.own item).remarks = (report? schema.source schema.rule item).toList := by
  rw [own, listing_eq_build, build_remarks, items_alone h]
  constructor
  · show [item].filterMap (format? schema.rule) = _
    cases hf : format? schema.rule item <;> simp [hf]
  · cases hr : report? schema.source schema.rule item <;> simp [hr]

variable {schema} in
/-- By itself an item gives one format, or one debug message about it. -/
lemma own_cases {v item : Value} (h : item ∈ schema.items v) :
    (∃ f, (schema.own item).formats = [f] ∧ (schema.own item).remarks = []) ∨
      ∃ r, (schema.own item).formats = [] ∧ (schema.own item).remarks = [r] := by
  obtain ⟨hf, hr⟩ := own_eq h
  rw [hf, hr, format?, report?]
  cases schema.rule item with
  | ok f => exact .inl ⟨f, rfl, rfl⟩
  | error drop => exact .inr ⟨_, rfl, rfl⟩

/-- The formats of a list are those that its items give by themselves. -/
lemma formats_eq_flatMap (v : Value) :
    (schema.listing v).formats =
      (schema.items v).flatMap fun item => (schema.own item).formats := by
  have hown : ((schema.items v).flatMap fun item => (schema.own item).formats) =
      (schema.items v).flatMap fun item => (format? schema.rule item).toList :=
    List.flatMap_congr fun item h => (own_eq h).1
  rw [hown, ← List.filterMap_eq_flatMap_toList, listing_eq_build]
  rfl

/-- The debug messages about a list are those about its items by themselves. -/
lemma remarks_eq_flatMap (v : Value) :
    (schema.listing v).remarks =
      (schema.items v).flatMap fun item => (schema.own item).remarks := by
  have hown : ((schema.items v).flatMap fun item => (schema.own item).remarks) =
      (schema.items v).flatMap fun item => (report? schema.source schema.rule item).toList :=
    List.flatMap_congr fun item h => (own_eq h).2
  rw [hown, ← List.filterMap_eq_flatMap_toList, listing_eq_build, build_remarks]

/-- The debug messages about a list are followed by one warning, if it gives nothing although some
item was dropped. -/
lemma reports_eq (v : Value) :
    (schema.listing v).reports = (schema.listing v).remarks ++
      if (schema.listing v).formats = [] ∧ (schema.listing v).remarks ≠ [] then
        [allDropped schema.source (schema.items v).length]
      else [] := by
  rw [listing_eq_build]
  exact build_reports schema.source schema.rule (schema.items v)

/-- A text without a comma is one item, unless it is empty. -/
lemma items_of_not_mem {schema : ListSchema} (hs : schema ≠ .streaming) {s : String}
    (h : ',' ∉ s.toList) : schema.items (.str s) = if s = "" then [] else [.str s] := by
  have hi : schema.items (.str s) = (flatItems s).map .str := by
    cases schema with
    | flat | streamMap => rfl
    | streaming => exact absurd rfl hs
  rw [hi, flatItems_of_not_mem h]
  split_ifs <;> rfl

/-- **Lists item by item**, with working settings. A list gives its formats whatever its items are
like; every item gives one format or one debug message, and gives the same by itself; so the formats
of a list are those of its items in order, and a list in two parts gives what its parts give. A
logger that records every report gets the debug messages of the items in order, then one warning
with the number of all items if there are no formats although some item was dropped, and nothing
else. -/
theorem listing_itemwise (schema : ListSchema) (e : Option Extractor)
    (he : ∀ x ∈ e, x.reporting.Working) (videoId v : Value) (s : Session) :
    let listing := schema.listing v
    let items := schema.items v
    let remarks := items.flatMap fun item => (schema.own item).remarks
    (listing.deliver e videoId s).1 = .ok listing.formats ∧
      listing.formats = items.flatMap (fun item => (schema.own item).formats) ∧
      (∀ item ∈ items,
        (∃ f, (schema.own item).formats = [f] ∧ (schema.own item).remarks = []) ∨
          ∃ r, (schema.own item).formats = [] ∧ (schema.own item).remarks = [r]) ∧
      (∀ w u, schema.Joins v w u → schema.items u = items ++ schema.items w ∧
        (schema.listing u).formats = listing.formats ++ (schema.listing w).formats) ∧
      (schema ≠ .streaming → ∀ t : String, ',' ∉ t.toList →
        schema.items (.str t) = if t = "" then [] else [.str t]) ∧
      ∀ x ∈ e, x.reporting.Recording →
        (listing.deliver e videoId s).2 = { s with
          journal := s.journal ++ (remarks ++
            if listing.formats = [] ∧ remarks ≠ [] then [allDropped schema.source items.length]
            else []).map (x.entry videoId) } := by
  intro listing items remarks
  have hok : (listing.deliver e videoId s).1 = .ok listing.formats := by
    cases e with
    | none => rfl
    | some x => exact listing.deliver_ok videoId (he x rfl) s
  have hremarks : listing.remarks = remarks := schema.remarks_eq_flatMap v
  refine ⟨hok, schema.formats_eq_flatMap v, fun item h => own_cases h, fun w u h => ?_,
    fun hs t h => items_of_not_mem hs h, fun x hx hrec => ?_⟩
  · have hi : schema.items u = items ++ schema.items w := h.items_eq
    refine ⟨hi, ?_⟩
    rw [schema.formats_eq_flatMap u, hi, List.flatMap_append, schema.formats_eq_flatMap w]
    exact congrArg (· ++ _) (schema.formats_eq_flatMap v).symm
  · obtain rfl : e = some x := hx
    rw [listing.deliver_recording videoId hrec, ← hremarks]
    exact congrArg (fun reports => { s with journal := s.journal ++ reports.map (x.entry videoId) })
      (schema.reports_eq v)

/-- Of three items one is no object and one names no media type. The other gives its format, and
without it there is a warning about two items. -/
theorem listing_itemwise_of_mixed :
    let e : Extractor := .ofSettings (some "youtube")
      [("logger", .recorder true), ("verbose", .value (.bool true))]
    let item (contentType : String) : Value := .object [("mimeType", .str contentType),
      ("bitrate", .int 7), ("contentLength", .str "10"), ("url", .str "http://x/a")]
    let run (items : List Value) :=
      (ListSchema.streaming.listing (.list items)).deliver (some e) (.str "abc") {}
    let format : Format := ⟨"audio/webm", 7, 10, "http://x/a", none, defaultSignatureKey⟩
    let report (drop : Drop) (dropped : Value) : Report :=
      e.entry (.str "abc") (dropReport "streamingData" dropped drop)
    let drops : List Report :=
      [report .notAnObject (.int 1), report (.badContentType (.str "audio")) (item "audio")]
    let warning : Report := .warning ("[youtube] abc: All 2 streamingData formats either failed " ++
      "to load or were skipped due to missing fields")
    e.reporting.Recording ∧
      (run [.int 1, item "audio/webm", item "audio"]).1 = .ok [format] ∧
      (run [.int 1, item "audio/webm", item "audio"]).2.journal = drops ∧
      (run [.int 1, item "audio"]).1 = .ok [] ∧
      (run [.int 1, item "audio"]).2.journal = drops ++ [warning] := by
  intro e item run format report drops warning
  have hrec : e.reporting.Recording := ⟨rfl, rfl⟩
  have he : ∀ x ∈ some e, x.reporting.Working := by
    rintro x ⟨⟩
    exact hrec.working
  obtain ⟨hok, -, -, -, -, hjournal⟩ := listing_itemwise .streaming (some e) he (.str "abc")
    (.list [.int 1, item "audio/webm", item "audio"]) {}
  obtain ⟨hnone, -, -, -, -, hwarned⟩ := listing_itemwise .streaming (some e) he (.str "abc")
    (.list [.int 1, item "audio"]) {}
  have hw : e.entry (.str "abc") (allDropped "streamingData" 2) = warning := rfl
  refine ⟨hrec, hok, ?_, hnone, ?_⟩
  · rw [hjournal e rfl hrec]
    rfl
  · rw [hwarned e rfl hrec, ← hw]
    rfl

end ListSchema

end PlayerPage
