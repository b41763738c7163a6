import PlayerPage.Proofs.Form.Writing
import PlayerPage.Proofs.Format.Itemwise

/-!
One format in two schemas.

* `Format.ofTexts?`: the format that six texts make up, whichever schema they stand in.
* `Format.ofFlatFields_toOption`, `Format.ofStreamingMembers_toOption`: what form texts and objects
  give is this format, where what is missing counts as an empty text.
* `ListSchema.listing_uniform`: an item with six texts gives the same in both schemas.
-/

namespace PlayerPage

/-- Of two steps, the result is there if both have one. -/
lemma toOption_bind {ε α β : Type} (x : Except ε α) (k : α → Except ε β) :
    (x >>= k).toOption = x.toOption.bind fun a => (k a).toOption := by
  cases x <;> rfl

namespace Format

/-- The text, unless it is empty. -/
def filled? (s : String) : Option String :=
  if s = "" then none else some s

/-- The text, if it is a content type. -/
def typed? (s : String) : Option String :=
  if (ContentType.parse? s.toList).isSome then some s else none

/-- The format that six texts make up. The first one must be a content type, two must be integers,
and the address must not be empty; an empty signature is none, and an empty name for it is the usual
one. -/
def ofTexts? (contentType bitrate contentLength url signature signatureKey : String) :
    Option Format := do
  let contentType ← typed? contentType
  let bitrate ← (Value.str bitrate).toInt?
  let contentLength ← (Value.str contentLength).toInt?
  let url ← filled? url
  some ⟨contentType, bitrate, contentLength, url, filled? signature,
    (filled? signatureKey).getD defaultSignatureKey⟩

/-! ### Form texts -/

section Form

variable (form : List (String × String)) (name : String)

/-- The text of a field, where a missing one counts as empty. -/
def textOf : String :=
  (Form.get? form name).getD ""

/-- What is a content type is not empty. -/
lemma filled?_bind_typed? (s : String) : (filled? s).bind typed? = typed? s := by
  rw [filled?]
  split_ifs with hs
  · have hp : ContentType.parse? [] = none := by decide
    simp [typed?, hs, hp]
  · rfl

lemma checkedContentType_toOption (s : String) : (checkedContentType s).toOption = typed? s := by
  rw [checkedContentType, typed?]
  split_ifs <;> rfl

lemma filter_ne_empty (s : String) : (some s).filter (· != "") = filled? s := by
  by_cases hs : s = "" <;> simp [filled?, hs]

lemma nonempty?_eq : nonempty? form name = filled? (textOf form name) := by
  rw [textOf, nonempty?]
  cases Form.get? form name with
  | none => rfl
  | some t => exact filter_ne_empty t

lemma requiredText_toOption : (requiredText form name).toOption = filled? (textOf form name) := by
  rw [textOf, requiredText]
  cases Form.get? form name with
  | none => rfl
  | some t =>
    simp only [beq_iff_eq, Option.getD_some, filled?]
    split_ifs <;> rfl

lemma requiredInt_toOption :
    (requiredInt form name).toOption = (Value.str (textOf form name)).toInt? := by
  rw [textOf, requiredInt]
  cases Form.get? form name with
  | none => rfl
  | some t =>
    rw [Option.bind_some, Option.getD_some]
    cases (Value.str t).toInt? <;> rfl

/-- What a form text gives is the format that the texts of its fields make up. -/
theorem ofFlatFields_toOption : (ofFlatFields form).toOption =
    ofTexts? (textOf form "type") (textOf form "bitrate") (textOf form "clen") (textOf form "url")
      (textOf form "s") (textOf form "sp") := by
  rw [ofFlatFields, ofTexts?, ← filled?_bind_typed?]
  simp only [toOption_bind, requiredText_toOption, checkedContentType_toOption,
    requiredInt_toOption, signatureOf, signatureKeyOf, nonempty?_eq, Option.bind_eq_bind,
    Option.bind_assoc]
  rfl

end Form

/-! ### Objects -/

section Members

variable {ms : Members} {name contentType bitrate contentLength : String}

lemma memberContentType_toOption (h : Members.get ms name = .str contentType) :
    (memberContentType ms name).toOption = typed? contentType := by
  rw [memberContentType, h, ← filled?_bind_typed?, filled?]
  simp only [beq_iff_eq]
  split_ifs
  · rfl
  · exact checkedContentType_toOption contentType

lemma memberInt_toOption (ms : Members) (name : String) :
    (memberInt ms name).toOption = (Members.get ms name).toInt? := by
  rw [memberInt]
  cases (Members.get ms name).toInt? <;> rfl

/-- The address in a form text counts even if it is empty. -/
lemma addressOf_eq {form : List (String × String)} (hu : (Form.get? form "url").isSome) :
    (addressOf ms form).filter (· != "") = filled? (textOf form "url") := by
  obtain ⟨url, hg⟩ := Option.isSome_iff_exists.mp hu
  rw [addressOf, textOf, hg]
  exact filter_ne_empty url

/-- What an object gives whose members are texts, and whose address stands in a form text, is the
format that these texts make up. -/
theorem ofStreamingMembers_toOption (ht : Members.get ms "mimeType" = .str contentType)
    (hb : Members.get ms "bitrate" = .str bitrate)
    (hc : Members.get ms "contentLength" = .str contentLength)
    (hu : (Form.get? (cipherFields ms) "url").isSome) :
    (ofStreamingMembers ms).toOption =
      ofTexts? contentType bitrate contentLength (textOf (cipherFields ms) "url")
        (textOf (cipherFields ms) "s") (textOf (cipherFields ms) "sp") := by
  rw [ofStreamingMembers, ofTexts?]
  simp only [addressOf_eq hu, signatureOf, signatureKeyOf, nonempty?_eq]
  cases filled? (textOf (cipherFields ms) "url") with
  -- without an address it does not matter what the other texts are
  | none => cases typed? contentType <;> cases (Value.str bitrate).toInt? <;>
      cases (Value.str contentLength).toInt? <;> rfl
  | some url =>
    simp only [toOption_bind, memberContentType_toOption ht, memberInt_toOption, hb, hc]
    rfl

end Members

end Format

/-! ### Lists of one item -/

namespace Listing

variable (source : String) (rule : Value → Except Drop Format) (item : Value)

/-- The only item of a list gives its format, or a debug message and the warning that nothing was
given. -/
lemma build_singleton :
    (build source rule [item]).formats = (rule item).toOption.toList ∧
      (build source rule [item]).reports.map (·.level) =
        if (rule item).toOption.isSome then [] else [.debug, .warning] := by
  cases hr : rule item with
  | ok f => simp [build, format?, report?, hr, Except.toOption]
  | error drop =>
    simp [build, format?, report?, hr, Except.toOption, dropReport_level, allDropped,
      Report.warning]

/-- Two items that give the same format, or none, each as the only one of a list, make the same
difference to the caller. -/
lemma deliver_build_singleton {source' : String} {rule' : Value → Except Drop Format}
    {item' : Value} (h : (rule item).toOption = (rule' item').toOption) (e : Option Extractor)
    (videoId : Value) (s t : Session) :
    ((build source rule [item]).deliver e videoId s).1 =
      ((build source' rule' [item']).deliver e videoId t).1 := by
  obtain ⟨hf, hl⟩ := build_singleton source rule item
  obtain ⟨hf', hl'⟩ := build_singleton source' rule' item'
  refine deliver_fst_eq ?_ ?_ e videoId s t
  · rw [hf, hf', h]
  · rw [hl, hl', h]

end Listing

namespace ListSchema

open Listing

variable {contentType bitrate contentLength url signature signatureKey : String} {ms : Members}
  {w : List Char}

/-- The fields of a form text that is the item of a list. -/
def flatForm (contentType bitrate contentLength url signature signatureKey : String) :
    List (String × String) :=
  [("type", contentType), ("bitrate", bitrate), ("clen", contentLength), ("url", url),
    ("s", signature), ("sp", signatureKey)]

/-- The fields of a form text that stands in a member of an object. -/
def cipherForm (url signature signatureKey : String) : List (String × String) :=
  [("url", url), ("s", signature), ("sp", signatureKey)]

/-- An object that carries six texts: three as members, and three in a form text whose separators
may be written as escapes, in one of two members. -/
structure Carries (ms : Members)
    (contentType bitrate contentLength url signature signatureKey : String) : Prop where
  contentType : Members.get ms "mimeType" = .str contentType
  bitrate : Members.get ms "bitrate" = .str bitrate
  contentLength : Members.get ms "contentLength" = .str contentLength
  cipher : ∃ w, Form.Writes true (cipherForm url signature signatureKey) w ∧
    (Members.get ms "cipher" = .str (String.ofList w) ∨
      (Members.get ms "cipher").holds = false ∧
        Members.get ms "signatureCipher" = .str (String.ofList w))

lemma Carries.cipherFields_eq
    (h : Carries ms contentType bitrate contentLength url signature signatureKey) :
    Format.cipherFields ms = cipherForm url signature signatureKey := by
  obtain ⟨w, hw, hc | ⟨hn, hc⟩⟩ := h.cipher
  · have hholds : (Value.str (String.ofList w)).holds = true := by
      simpa [Value.holds] using hw.ne_nil
    rw [Format.cipherFields, hc, hholds]
    exact Form.ofValue_of_writes hw
  · rw [Format.cipherFields, hn, hc]
    exact Form.ofValue_of_writes hw

/-- What an object gives that carries six texts. -/
lemma Carries.rule_toOption
    (h : Carries ms contentType bitrate contentLength url signature signatureKey) :
    (streaming.rule (.object ms)).toOption =
      Format.ofTexts? contentType bitrate contentLength url signature signatureKey := by
  have hu : (Form.get? (Format.cipherFields ms) "url").isSome := by
    rw [h.cipherFields_eq]
    rfl
  have hrule := Format.ofStreamingMembers_toOption h.contentType h.bitrate h.contentLength hu
  rw [h.cipherFields_eq] at hrule
  exact hrule

/-- A form text is the only item of itself. -/
lemma flat_items_of_writes {f : String × String} {form : List (String × String)}
    (h : Form.Writes false (f :: form) w) :
    flat.items (.str (String.ofList w)) = [.str (String.ofList w)] := by
  have hcomma : ',' ∉ (String.ofList w).toList := by
    rw [String.toList_ofList]
    exact h.not_mem ',' rfl (by decide) (by decide)
  rw [items_of_not_mem (by decide) hcomma, if_neg]
  simpa using h.ne_nil

/-- What a form text gives that has six texts as its fields. -/
lemma flat_rule_toOption
    (h : Form.Writes false
      (flatForm contentType bitrate contentLength url signature signatureKey) w) :
    (flat.rule (.str (String.ofList w))).toOption =
      Format.ofTexts? contentType bitrate contentLength url signature signatureKey := by
  show (Format.ofFlatItem (String.ofList w)).toOption = _
  rw [Format.ofFlatItem, String.toList_ofList, Form.fields_of_writes h,
    Format.ofFlatFields_toOption]
  rfl

/-- **One format in two schemas.** Whatever six texts are, a form text with them as its fields and
an object that carries them give the same as the only item of a list, good or bad, also if a report
cannot be handed on. With working settings this is the one format that the texts make up, or no
format. -/
theorem listing_uniform
    (hw : Form.Writes false
      (flatForm contentType bitrate contentLength url signature signatureKey) w)
    (hms : Carries ms contentType bitrate contentLength url signature signatureKey)
    (e : Option Extractor) (videoId : Value) (s t : Session) :
    let given := ((ofFlat (.str (String.ofList w))).deliver e videoId s).1
    given = ((ofStreaming (.list [.object ms])).deliver e videoId t).1 ∧
      ((∀ x ∈ e, x.reporting.Working) → given = .ok (Format.ofTexts? contentType bitrate
        contentLength url signature signatureKey).toList) := by
  intro given
  have hflat : ofFlat (.str (String.ofList w)) =
      build flat.source flat.rule [.str (String.ofList w)] := by
    rw [← flat_items_of_writes hw]
    exact flat.listing_eq_build _
  have hformats : (ofFlat (.str (String.ofList w))).formats = (Format.ofTexts? contentType bitrate
      contentLength url signature signatureKey).toList := by
    rw [hflat, (build_singleton _ _ _).1, flat_rule_toOption hw]
  constructor
  · have hsame : (flat.rule (.str (String.ofList w))).toOption =
        (streaming.rule (.object ms)).toOption := by
      rw [flat_rule_toOption hw, hms.rule_toOption]
    show ((ofFlat _).deliver e videoId s).1 = _
    rw [hflat]
    exact deliver_build_singleton flat.source flat.rule _ hsame e videoId s t
  · intro he
    show ((ofFlat _).deliver e videoId s).1 = _
    rw [← hformats]
    cases e with
    | none => rfl
    | some x => exact deliver_ok _ videoId (he x rfl) s

/-- Texts with marks, blanks and underscores in them make up one format in both schemas, and none
with an empty address. -/
theorem listing_uniform_of_texts :
    let type := "video/mp4; a=\"b,c\""
    let form (url : String) :=
      String.ofList (Form.write ['&'] (flatForm type "-1_0" " 7" url "" "é"))
    let cipher (url : String) :=
      String.ofList (Form.write "\\\\u0026".toList (cipherForm url "" "é"))
    let members (url : String) : Members := [("mimeType", .str type), ("bitrate", .str "-1_0"),
      ("contentLength", .str " 7"), ("signatureCipher", .str (cipher url))]
    let flatRun (url : String) := ((ofFlat (.str (form url))).deliver none (.str "abc") {}).1
    let streamingRun (url : String) :=
      ((ofStreaming (.list [.object (members url)])).deliver none (.str "abc") {}).1
    let f : Format := ⟨type, -10, 7, "http://x/?a&b", none, "é"⟩
    form "/" =
        "type=video%2fmp4%3b%20a%3d%22b%2cc%22&bitrate=-1_0&clen=%207&url=%2f&s=&sp=%c3%a9" ∧
      cipher "/" = "url=%2f\\\\u0026s=\\\\u0026sp=%c3%a9" ∧
      flatRun "http://x/?a&b" = .ok [f] ∧ streamingRun "http://x/?a&b" = .ok [f] ∧
      flatRun "" = .ok [] ∧ streamingRun "" = .ok [] := by
  intro type form cipher members flatRun streamingRun f
  have hsep : Form.Separates true "\\\\u0026".toList := .escaped 1 rfl
  have hcarries (url : String) : Carries (members url) type "-1_0" " 7" url "" "é" :=
    ⟨rfl, rfl, rfl, _, Form.writes_write hsep (cipherForm url "" "é"), .inr ⟨rfl, rfl⟩⟩
  have hnobody : ∀ x ∈ (none : Option Extractor), x.reporting.Working := by simp
  have hgiven (url : String) : flatRun url = streamingRun url ∧
      flatRun url = .ok (Format.ofTexts? type "-1_0" " 7" url "" "é").toList :=
    (listing_uniform (Form.writes_write .plain (flatForm type "-1_0" " 7" url "" "é"))
      (hcarries url) none (.str "abc") {} {}).imp_right fun h => h hnobody
  have hsome : Format.ofTexts? type "-1_0" " 7" "http://x/?a&b" "" "é" = some f := by decide
  have hnone : Format.ofTexts? type "-1_0" " 7" "" "" "é" = none := by decide
  obtain ⟨hgood, hf⟩ := hgiven "http://x/?a&b"
  obtain ⟨hbad, hn⟩ := hgiven ""
  rw [hsome] at hf
  rw [hnone] at hn
  exact ⟨by decide, by decide, hf, hgood ▸ hf, hn, hbad ▸ hn⟩

end ListSchema

end PlayerPage
