import Mathlib.Data.List.Basic
import Mathlib.Data.List.TakeWhile
import PlayerPage.Manifest
import PlayerPage.Proofs.Lookup
import PlayerPage.Proofs.Run

/-!
What of a document counts as a manifest.

* `Manifest.skeleton`: the elements with a part in a manifest, each with its local name, the
  attributes that count, and the text of an address; the children of any other element stand in its
  place, and all other text is gone.
* `Manifest.named_skeleton`: the elements of a name in the skeleton are those of the document, cut
  down (`Manifest.cut`); `Manifest.entry_cut`: a representation that is cut down gives the same.
* `Manifest.entries_eq`: the entries of a document are read off its skeleton.
* `Manifest.readManifest_of_skeleton`: documents with one skeleton come to the same.
-/

namespace PlayerPage

open Xml

namespace Manifest

/-! ### Skeletons -/

/-- The local names of the elements that have a part in a manifest. -/
def partNames : List String :=
  ["AdaptationSet", "Representation", "BaseURL"]

/-- The names of the attributes that count. -/
def markNames : List String :=
  ["id", "mimeType", "codecs", "bandwidth"]

/-- The attributes that count, in a fixed order. -/
def marks (attributes : List (String × String)) : List (String × String) :=
  markNames.filterMap fun name => (attributes.lookup name).map fun value => (name, value)

/-- The text of an element that counts: that of an address, before the first element in it. -/
def addressText (name : String) (content : List Node) : List Node :=
  if name = "BaseURL" then ((Node.leadingText? content).map Node.text).toList else []

mutual

/-- The forest of the elements that have a part in a manifest, with nothing but what counts. -/
def skeleton : Element → List Element
  | .mk tag attributes content =>
    let name := localName tag
    if name ∈ partNames then
      [.mk name (marks attributes) (addressText name content ++ (skeletonIn content).map .element)]
    else skeletonIn content

/-- The same for content. -/
def skeletonIn : List Node → List Element
  | [] => []
  | .text _ :: rest => skeletonIn rest
  | .element e :: rest => skeleton e ++ skeletonIn rest

end

/-- An element with nothing but what counts. -/
def cut (e : Element) : Element :=
  .mk (localName e.tag) (marks e.attributes)
    (addressText (localName e.tag) e.content ++ (skeletonIn e.content).map .element)

/-- Whether an element has a part in a manifest. -/
def IsPart (e : Element) : Prop :=
  localName e.tag ∈ partNames

instance (e : Element) : Decidable (IsPart e) :=
  inferInstanceAs (Decidable (localName e.tag ∈ partNames))

lemma skeleton_of_isPart {e : Element} (h : IsPart e) : skeleton e = [cut e] := by
  obtain ⟨tag, attributes, content⟩ := e
  exact if_pos h

lemma skeleton_of_not {e : Element} (h : ¬ IsPart e) : skeleton e = skeletonIn e.content := by
  obtain ⟨tag, attributes, content⟩ := e
  exact if_neg h

/-! ### Elements that are cut down -/

lemma localName_cut (e : Element) : localName (cut e).tag = localName e.tag := by
  show localName (localName e.tag) = localName e.tag
  simp only [localName, String.toList_ofList, List.reverse_reverse, List.takeWhile_idem]

/-- An attribute that counts is kept. -/
lemma get?_cut (e : Element) {name : String} (h : name ∈ markNames) :
    (cut e).get? name = e.get? name := by
  show (marks e.attributes).lookup name = e.attributes.lookup name
  rw [marks, lookup_selection, if_pos h]

/-- The elements of a local name in content, in document order. -/
def namedIn (content : List Node) (name : String) : List Element :=
  (Node.elements content).filter fun inner => localName inner.tag == name

lemma named_eq (e : Element) (name : String) :
    e.named name = (if localName e.tag = name then [e] else []) ++ namedIn e.content name := by
  obtain ⟨tag, attributes, content⟩ := e
  rw [Element.named, Element.elements, List.filter_cons]
  by_cases h : localName tag = name <;> simp [h, namedIn, Element.tag, Element.content]

lemma namedIn_element (e : Element) (rest : List Node) (name : String) :
    namedIn (.element e :: rest) name = e.named name ++ namedIn rest name := by
  rw [namedIn, Node.elements, List.filter_append]
  rfl

/-- What is found in a forest is found in content that consists of it, after a text. -/
lemma namedIn_addressText (tag : String) (content : List Node) (forest : List Element)
    (name : String) :
    namedIn (addressText tag content ++ forest.map .element) name =
      forest.flatMap (·.named name) := by
  have hforest : namedIn (forest.map .element) name = forest.flatMap (·.named name) := by
    induction forest with
    | nil => rfl
    | cons e rest ih => rw [List.map_cons, namedIn_element, ih, List.flatMap_cons]
  rw [← hforest, addressText]
  split_ifs
  · cases Node.leadingText? content <;> rfl
  · rfl

section

variable {name : String}

mutual

/-- The elements of a name in the skeleton are those of the document, cut down. -/
theorem named_skeleton (hn : name ∈ partNames) : (e : Element) →
    (skeleton e).flatMap (·.named name) = (e.named name).map cut
  | .mk tag attributes content => by
    have hcontent := namedIn_skeletonIn hn content
    rw [named_eq, List.map_append]
    by_cases h : IsPart (.mk tag attributes content)
    · rw [skeleton_of_isPart h, List.flatMap_singleton, named_eq, localName_cut]
      refine congrArg₂ (· ++ ·) ?_ ((namedIn_addressText _ _ _ _).trans hcontent)
      split_ifs <;> rfl
    · -- an element without a part has none of the names that count
      have hne : localName (Element.mk tag attributes content).tag ≠ name := by
        rintro rfl
        exact h hn
      rw [skeleton_of_not h, if_neg hne]
      exact hcontent

theorem namedIn_skeletonIn (hn : name ∈ partNames) : (content : List Node) →
    (skeletonIn content).flatMap (·.named name) = (namedIn content name).map cut
  | [] => rfl
  | .text _ :: rest => namedIn_skeletonIn hn rest
  | .element e :: rest => by
    rw [skeletonIn, List.flatMap_append, named_skeleton hn e, namedIn_skeletonIn hn rest,
      namedIn_element, List.map_append]

end

end

/-- The elements of a name inside one with a part are found in it after it is cut down. -/
lemma named_cut {e : Element} (h : IsPart e) {name : String} (hn : name ∈ partNames) :
    (cut e).named name = (e.named name).map cut := by
  rw [← named_skeleton hn e, skeleton_of_isPart h, List.flatMap_singleton]

lemma isPart_of_mem_named {e inner : Element} {name : String} (hn : name ∈ partNames)
    (h : inner ∈ e.named name) : IsPart inner := by
  have he := (List.mem_filter.mp h).2
  rw [IsPart, beq_iff_eq.mp he]
  exact hn

/-- The text of an address is kept. -/
lemma leadingText?_cut {e : Element} (h : localName e.tag = "BaseURL") :
    (cut e).leadingText? = e.leadingText? := by
  show Node.leadingText? (addressText (localName e.tag) e.content ++ _) =
    Node.leadingText? e.content
  rw [addressText, if_pos h]
  cases ht : Node.leadingText? e.content with
  | some s => rfl
  | none =>
    -- no text is put before the elements
    cases skeletonIn e.content <;> rfl

/-! ### Entries -/

lemma url?_cut {representation : Element} (h : IsPart representation) :
    url? (cut representation) = url? representation := by
  have hn : "BaseURL" ∈ partNames := by decide
  rw [url?, url?, named_cut h hn]
  cases ha : representation.named "BaseURL" with
  | nil => rfl
  | cons e rest =>
    have hmem : e ∈ representation.named "BaseURL" := by simp [ha]
    have he : localName e.tag = "BaseURL" := beq_iff_eq.mp (List.mem_filter.mp hmem).2
    rw [List.map_cons]
    simp only [leadingText?_cut he]

/-- A representation that is cut down, in a set that is cut down, gives the same. -/
lemma entry_cut (set : Element) {representation : Element} (h : IsPart representation) :
    entry (cut set) (cut representation) = entry set representation := by
  have hmark (e : Element) (name : String) (hn : name ∈ markNames) := get?_cut e hn
  have htype : contentTypeOf (cut set) (cut representation) = contentTypeOf set representation := by
    rw [contentTypeOf, mediaTypeOf, codecsOf, hmark set "mimeType" (by decide),
      hmark representation "mimeType" (by decide), hmark set "codecs" (by decide),
      hmark representation "codecs" (by decide)]
    rfl
  rw [entry, entry, url?_cut h, htype, hmark _ "id" (by decide), hmark _ "bandwidth" (by decide)]

/-- What the representations in a forest give, in order. -/
def entriesIn (forest : List Element) : List Entry :=
  (forest.flatMap (·.named "AdaptationSet")).flatMap fun set =>
    (set.named "Representation").map fun representation => entry set representation

/-- The entries of a document are read off its skeleton. -/
lemma entries_eq (document : Element) : entries document = entriesIn (skeleton document) := by
  have hs : "AdaptationSet" ∈ partNames := by decide
  have hr : "Representation" ∈ partNames := by decide
  have hset (set : Element) (h : IsPart set) :
      ((cut set).named "Representation").map (entry (cut set)) =
        (set.named "Representation").map (entry set) := by
    rw [named_cut h hr, List.map_map]
    refine List.map_congr_left fun representation hmem => ?_
    rw [Function.comp_apply]
    exact entry_cut set (isPart_of_mem_named hr hmem)
  rw [entries, pairs, entriesIn, named_skeleton hs, List.map_flatMap, List.flatMap_map]
  refine List.flatMap_congr fun set hmem => ?_
  rw [List.map_map]
  exact (hset set (isPart_of_mem_named hs hmem)).symm

end Manifest

/-! ### Readings -/

variable {document document' : Element}

/-- A document gives formats or is an error of the extraction, if reports can be handed on. -/
lemma readManifest_className {e : Option Extractor}
    (he : ∀ reader, e = some reader → reader.reporting.Working) (document : Element)
    (videoId : Value) (s : Session) :
    (∃ formats, (readManifest e document videoId s).1 = .ok formats) ∨
      ∃ f, (readManifest e document videoId s).1 = .error f ∧ f.className = "ExtractorError" := by
  rw [readManifest]
  rcases Manifest.read document with ⟨listing, flaw⟩
  have hdeliver : (listing.deliver e videoId s).1 = .ok listing.formats := by
    cases e with
    | none => rfl
    | some reader => exact listing.deliver_ok videoId (he reader rfl) s
  simp only
  rw [Run.bind_of_fst hdeliver]
  cases flaw with
  | none => exact .inl ⟨_, rfl⟩
  | some flaw => cases flaw <;> exact .inr ⟨_, rfl, rfl⟩

/-- **A manifest is its skeleton.** Two documents with the same skeleton come to the same, and with
the same reports: be it with any namespaces, with any elements around those with a part in a
manifest, and with any other attributes and texts. What they come to are formats, or an error of the
extraction, if the reports can be handed on. -/
theorem readManifest_of_skeleton (h : Manifest.skeleton document = Manifest.skeleton document')
    (e : Option Extractor) (videoId : Value) (s : Session) :
    let run := readManifest e document videoId s
    readManifest e document' videoId s = run ∧
      ((∀ reader, e = some reader → reader.reporting.Working) →
        (∃ formats, run.1 = .ok formats) ∨
          ∃ f, run.1 = .error f ∧ f.className = "ExtractorError") := by
  intro run
  have hread : Manifest.read document' = Manifest.read document := by
    rw [Manifest.read, Manifest.read, Manifest.entries_eq, Manifest.entries_eq, h]
  refine ⟨?_, fun he => readManifest_className he document videoId s⟩
  show readManifest e document' videoId s = readManifest e document videoId s
  rw [readManifest, readManifest, hread]

/-- A set at the root is as good as one with a namespace inside other elements, with attributes and
texts of no account. -/
theorem readManifest_of_skeleton_wrapped :
    let address (content : List Node) : Node := .element (.mk "BaseURL" [] content)
    let plain : Element := .mk "AdaptationSet" [("mimeType", "audio/webm")]
      [.element (.mk "Representation" [("bandwidth", "7"), ("codecs", "opus")]
        [address [.text "http://x/clen/10/a"]]),
      .element (.mk "Representation" [] [address [.text "http://x/b"]])]
    let wrapped : Element := .mk "\x7bu\x7dMPD" [("type", "static")] [.text "\n",
      .element (.mk "\x7bu\x7dAdaptationSet" [("lang", "en"), ("mimeType", "audio/webm")]
        [.text "sound", .element (.mk "Representation" [("codecs", "opus"), ("bandwidth", "7")]
          [.element (.mk "Group" [] [address [.text "http://x/clen/10/a",
            .element (.mk "note" [] [])]])]),
        .element (.mk "Representation" [("width", "10")]
          [.text "of", address [.text "http://x/b"]])])]
    let e : Extractor := .ofSettings (some "youtube") [("logger", .recorder true),
      ("verbose", .value (.bool true))]
    let run := readManifest (some e) wrapped (.str "abc") {}
    Manifest.skeleton plain = Manifest.skeleton wrapped ∧
      run = readManifest (some e) plain (.str "abc") {} ∧
      run.1.toOption =
        some [⟨"audio/webm; codecs=opus", 7, 10, "http://x/clen/10/a", none, defaultSignatureKey⟩] ∧
      run.2.journal.length = 1 := by
  intro address plain wrapped e run
  have h : Manifest.skeleton plain = Manifest.skeleton wrapped := by
    simp [plain, wrapped, address, Manifest.skeleton, Manifest.skeletonIn, Manifest.partNames,
      Manifest.marks, Manifest.markNames, Manifest.addressText, localName, Node.leadingText?,
      List.lookup_cons]
  refine ⟨h, (readManifest_of_skeleton h (some e) (.str "abc") {}).1, ?_, ?_⟩
  · decide +kernel +zetaReduce
  · decide +kernel +zetaReduce

end PlayerPage
