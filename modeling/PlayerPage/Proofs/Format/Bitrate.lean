import PlayerPage.Proofs.Format.Uniform
import PlayerPage.Proofs.Format.WellFormed
import PlayerPage.Proofs.Lookup

/-!
Bit rates, stated and stood in for.

* `Measured`: the descriptions that state bit rates, in three schemas; `Measured.stated`: the values
  that state them.
* `Measured.exists_stated`: a bit rate that is given is the integer that such a value denotes.
* `Format.standIns`: what stands in for a bit rate where only a quality is named;
  `Format.standIns_neg`: all of it is negative.
* `Measured.standIns_below_iff`: stand-ins are below the bit rates of a list exactly if no negative
  integer is stated among these.
-/

namespace PlayerPage

lemma Value.integer_of_toInt? {v : Value} {n : Int} (h : v.toInt? = some n) :
    v.integer = .ok n := by
  cases v with
  | bool b => cases h
  | null | int | float | str | bytes | list | tuple | object => exact eq_ok_of_toOption h

namespace Format

/-! ### Stand-ins -/

/-- What stands in for the bit rate of a quality. -/
def standIns : List Int :=
  unknownQualityBitrate :: qualityBitrates.map Prod.snd

lemma standIns_neg : ∀ b ∈ standIns, b < 0 := by
  decide

lemma qualityBitrate_mem (quality : String) : qualityBitrate quality ∈ standIns := by
  rw [qualityBitrate, standIns]
  cases h : qualityBitrates.lookup quality with
  | none => exact List.mem_cons_self
  | some b => exact List.mem_cons_of_mem _ (List.mem_map_of_mem (mem_of_lookup h))

variable {f : Format} {item : String}

lemma ofStreamItem_bitrate (h : ofStreamItem item = .ok f) : f.bitrate ∈ standIns := by
  obtain ⟨-, hb, -⟩ := ofStreamItem_eq_ok h
  rw [hb]
  exact qualityBitrate_mem _

/-! ### Stated bit rates -/

/-- The value that states the bit rate in a form text. -/
def statedInItem (item : String) : Value :=
  .str (textOf (Form.fields item.toList) "bitrate")

lemma ofFlatItem_bitrate (h : ofFlatItem item = .ok f) :
    (statedInItem item).integer = .ok f.bitrate := by
  obtain ⟨-, hb, -⟩ := ofFlatItem_eq_ok h
  apply Value.integer_of_toInt?
  rw [statedInItem, ← requiredInt_toOption, hb]
  rfl

/-- The value that states the bit rate in an item of a list. -/
def statedInObject : Value → Value
  | .object ms => Members.get ms "bitrate"
  | _ => .null

lemma ofStreamingItem_bitrate {item : Value} (h : ofStreamingItem item = .ok f) :
    (statedInObject item).integer = .ok f.bitrate := by
  obtain ⟨ms, rfl, -, hb, -⟩ := ofStreamingItem_eq_ok h
  apply Value.integer_of_toInt?
  rw [statedInObject, ← memberInt_toOption, hb]
  rfl

end Format

namespace Manifest

open Xml

/-- The value that states the bit rate of a representation. -/
def statedIn (representation : Element) : Value :=
  .ofOption (representation.get? "bandwidth")

lemma Gives.bitrate {document set representation : Element} {f : Format}
    (h : Gives document set representation f) :
    (statedIn representation).integer = .ok f.bitrate := by
  obtain ⟨-, -, hb, -⟩ := entry_eq_format h.entry
  exact hb

end Manifest

/-! ### Lists with real bit rates -/

/-- The descriptions of formats that state bit rates: a text, a list or a manifest. -/
inductive Measured where
  | flat (text : String)
  | streaming (items : List Value)
  | manifest (document : Xml.Element)

namespace Measured

open Listing

/-- The formats that descriptions give. -/
def run (e : Option Extractor) (videoId : Value) : Measured → Run (List Format)
  | flat text => (ofFlat (.str text)).deliver e videoId
  | streaming items => (ofStreaming (.list items)).deliver e videoId
  | manifest document => readManifest e document videoId

/-- The values that state bit rates in descriptions. -/
def stated : Measured → List Value
  | flat text => (flatItems text).map Format.statedInItem
  | streaming items => items.map Format.statedInObject
  | manifest document => (Manifest.pairs document).map fun (_, r) => Manifest.statedIn r

variable {x : Measured} {e : Option Extractor} {videoId : Value} {s t : Session}
  {formats : List Format}

/-- A bit rate that is given is the integer that a description states. -/
lemma exists_stated (h : x.run e videoId s = (.ok formats, t)) :
    ∀ g ∈ formats, ∃ v ∈ x.stated, v.integer = .ok g.bitrate := by
  intro g hg
  cases x with
  | flat text =>
    rw [eq_of_deliver_ok h] at hg
    obtain ⟨item, hitem, hr⟩ := ListSchema.flat.exists_rule_ok hg
    obtain ⟨piece, hpiece, rfl⟩ := List.mem_map.mp hitem
    exact ⟨_, List.mem_map_of_mem hpiece, Format.ofFlatItem_bitrate hr⟩
  | streaming items =>
    rw [eq_of_deliver_ok h] at hg
    obtain ⟨item, hitem, hr⟩ := ListSchema.streaming.exists_rule_ok hg
    exact ⟨_, List.mem_map_of_mem hitem, Format.ofStreamingItem_bitrate hr⟩
  | manifest document =>
    have hread : (Manifest.read document).1.formats = formats := by
      rw [eq_of_readManifest_ok h]
    rw [← hread] at hg
    obtain ⟨set, representation, hgives⟩ := Manifest.exists_gives hg
    exact ⟨_, List.mem_map_of_mem hgives.mem, hgives.bitrate⟩

/-- The formats that a stream map gives, on some occasion. -/
def StreamMapGives (text : String) (formats : List Format) : Prop :=
  ∃ e videoId s t, (ofStreamMap (.str text)).deliver e videoId s = (.ok formats, t)

lemma StreamMapGives.mem_standIns {text : String} (h : StreamMapGives text formats) :
    ∀ f ∈ formats, f.bitrate ∈ Format.standIns := by
  intro f hf
  obtain ⟨e, videoId, s, t, h⟩ := h
  rw [eq_of_deliver_ok h] at hf
  obtain ⟨item, hitem, hr⟩ := ListSchema.streamMap.exists_rule_ok hf
  obtain ⟨piece, hpiece, rfl⟩ := List.mem_map.mp hitem
  exact Format.ofStreamItem_bitrate hr

/-- A stream map with a quality that is not known gives the stand-in closest to real bit rates. -/
lemma streamMapGives_unknown : ∃ f : Format, f.bitrate = -1 ∧
    StreamMapGives "type=video/mp4&url=%3Fclen=1%26" [f] :=
  ⟨⟨"video/mp4", -1, 1, "?clen=1&", none, defaultSignatureKey⟩, rfl, none, .null, {}, {}, rfl⟩

/-- **Stand-ins and stated bit rates.** Where bit rates are stated, every one that is given is the
integer that a description states; a stream map gives stand-ins alone, which are negative. So a list
with stated bit rates stays above all stream maps exactly if none of its bit rates is negative, and
this is not seen to: a negative integer is taken for a bit rate like any other. -/
theorem standIns_below_iff (h : x.run e videoId s = (.ok formats, t)) :
    (∀ g ∈ formats, ∃ v ∈ x.stated, v.integer = .ok g.bitrate) ∧
      (∀ text given, StreamMapGives text given →
        ∀ f ∈ given, f.bitrate ∈ Format.standIns ∧ f.bitrate < 0) ∧
      ((∀ text given, StreamMapGives text given →
        ∀ f ∈ given, ∀ g ∈ formats, f.bitrate < g.bitrate) ↔ ∀ g ∈ formats, 0 ≤ g.bitrate) := by
  have hneg : ∀ text given, StreamMapGives text given →
      ∀ f ∈ given, f.bitrate ∈ Format.standIns ∧ f.bitrate < 0 := by
    intro text given hgives f hf
    have hmem := hgives.mem_standIns f hf
    exact ⟨hmem, Format.standIns_neg f.bitrate hmem⟩
  refine ⟨exists_stated h, hneg, fun hbelow g hg => ?_, fun hreal text given hgives f hf g hg => ?_⟩
  · obtain ⟨f, hf, hgives⟩ := streamMapGives_unknown
    have hlt := hbelow _ [f] hgives f List.mem_cons_self g hg
    omega
  · have hf := (hneg text given hgives f hf).2
    have hg := hreal g hg
    omega

/-- A bit rate of minus fifty is below the stand-in for a small picture. -/
theorem standIns_below_iff_of_negative :
    let x : Measured := .flat "type=audio/webm&bitrate=-50&clen=10&url=http%3A%2F%2Fx%2Fa"
    let g : Format := ⟨"audio/webm", -50, 10, "http://x/a", none, defaultSignatureKey⟩
    let f : Format := ⟨"video/mp4", -10, 10, "http://x/b?clen=10&", none, defaultSignatureKey⟩
    x.run none (.str "abc") {} = (.ok [g], {}) ∧
      StreamMapGives "type=video/mp4&quality=small&url=http%3A%2F%2Fx%2Fb%3Fclen%3D10%26" [f] ∧
      g.bitrate < f.bitrate ∧ (∃ v ∈ x.stated, v.integer = .ok (-50)) ∧
      ¬ ∀ text given, StreamMapGives text given →
        ∀ f ∈ given, ∀ h ∈ [g], f.bitrate < h.bitrate := by
  intro x g f
  have hrun : x.run none (.str "abc") {} = (.ok [g], {}) := rfl
  have hgives : StreamMapGives
      "type=video/mp4&quality=small&url=http%3A%2F%2Fx%2Fb%3Fclen%3D10%26" [f] :=
    ⟨none, .str "abc", {}, {}, rfl⟩
  obtain ⟨hstated, -, hiff⟩ := standIns_below_iff hrun
  refine ⟨hrun, hgives, by decide, hstated g List.mem_cons_self, ?_⟩
  rw [hiff]
  intro hreal
  exact absurd (hreal g List.mem_cons_self) (by decide)

end Measured

end PlayerPage
