import Mathlib.Tactic.Common
import PlayerPage.Track.Metadata

/-!
JSON documents that an extractor reads.

* `Json.load_error`: a value that is no JSON document brings a fault about this value;
  `Extractor.parseJson_error`: for an extractor it is an error of the extraction.
* `Value.Denotes`: what a value stands for as the response of the player;
  `Extractor.playerResponse_eq_ok_iff`: this is the response that an extractor reads.
-/

namespace PlayerPage

namespace Json

variable {f : Fault}

/-- If all that can go wrong in a step counts as a fault about a value, so does what went wrong. -/
lemma isAboutValue_of_mapError {ε α : Type} {step : Except ε α} {fault : ε → Fault}
    (hfault : ∀ e, (fault e).isAboutValue = true) (h : step.mapError fault = .error f) :
    f.isAboutValue = true := by
  cases step with
  | ok a => cases h
  | error e =>
    cases h
    exact hfault e

lemma parseDecoded_error {s : List Char} (h : parseDecoded s = .error f) :
    f.isAboutValue = true :=
  isAboutValue_of_mapError (fun flaw => by cases flaw <;> rfl) h

/-- Bytes that are no text are undecodable, whatever their encoding is. -/
lemma textOf_error {bytes : List UInt8} (h : textOf bytes = .error f) : f.isAboutValue = true :=
  isAboutValue_of_mapError (fun _ => rfl) h

/-- Every fault of a value that is no JSON document is about its kind or its form. -/
lemma load_error {v : Value} (h : load v = .error f) : f.isAboutValue = true := by
  cases v with
  | str s =>
    rw [load, parse] at h
    split_ifs at h
    · cases h
      rfl
    · exact parseDecoded_error h
  | bytes b =>
    rw [load] at h
    -- either the bytes are no text, or the text is no document
    cases ht : textOf b with
    | ok s =>
      rw [ht] at h
      exact parseDecoded_error h
    | error g =>
      rw [ht] at h
      cases h
      exact textOf_error ht
  | null | bool | int | float | list | tuple | object =>
    cases h
    rfl

end Json

/-- What a value stands for as the response of the player: an object for itself, and a document for
what it holds. -/
inductive Value.Denotes : (v response : Value) → Prop
  | object (ms : Members) : Denotes (.object ms) (.object ms)
  | document {v response : Value} (h : Json.load v = .ok response) : Denotes v response

/-- An object is no document, and a document holds one value. -/
lemma Value.Denotes.unique {v response response' : Value} (h : v.Denotes response)
    (h' : v.Denotes response') : response = response' := by
  rcases h with _ | h
  · rcases h' with _ | ⟨⟨⟩⟩
    rfl
  · rcases h' with _ | h'
    · cases h
    · exact Except.ok.inj (h.symm.trans h')

namespace Extractor

variable {e : Extractor} {v response videoId note : Value} {f : Failure}

/-- A value that is no JSON document is an error of the extraction. -/
lemma parseJson_error (h : e.parseJson v videoId note = .error f) :
    ∃ g, f = e.misread videoId note g := by
  rw [parseJson] at h
  cases hl : Json.load v with
  | ok w =>
    rw [hl] at h
    cases h
  | error g =>
    simp only [hl, Json.load_error hl, if_true] at h
    exact ⟨g, (Except.error.inj h).symm⟩

lemma parseJson_eq_ok_iff :
    e.parseJson v videoId note = .ok response ↔ Json.load v = .ok response := by
  rw [parseJson]
  cases Json.load v <;> simp

lemma playerResponse_eq_ok_iff :
    e.playerResponse v videoId = .ok response ↔ v.Denotes response := by
  cases v with
  | object ms =>
    constructor
    · rintro ⟨⟩
      exact .object ms
    · rintro (_ | ⟨⟨⟩⟩)
      rfl
  | null | bool | int | float | str | bytes | list | tuple =>
    constructor
    · exact fun h => .document (parseJson_eq_ok_iff.mp h)
    · rintro (_ | h)
      exact parseJson_eq_ok_iff.mpr h

/-- A response that cannot be read is an error of the extraction. -/
lemma playerResponse_error (h : e.playerResponse v videoId = .error f) :
    ∃ g, f = e.misread videoId responseNote g := by
  rw [playerResponse.eq_def] at h
  split at h
  · cases h
  · exact parseJson_error h

end Extractor

end PlayerPage
