import Mathlib.Data.List.Basic
import Mathlib.Tactic.Common
import PlayerPage.Format.Schema

/-!
Marks in a text, and where they occur first.

* `Text.CutsAt`: a text before and after the first occurrence of a mark in it; `Text.CutsAt.unique`:
  there is only one way to cut it so, and `Text.cutAt?_eq_some_iff` finds it.
* `Text.between?_eq_some_iff`: what stands between the first occurrence of one mark and the next of
  another.
* `Format.HoldsLength`: an integer stands there in an address; `Format.lengthInUrl?_eq_some_iff`
  reads it.
-/

namespace PlayerPage

namespace Text

/-- What stands after a mark at the beginning of a text. -/
lemma after?_eq_some_iff (mark s rest : List Char) :
    after? mark s = some rest ↔ s = mark ++ rest := by
  induction mark generalizing s with
  | nil => simp [after?]
  | cons m mark ih =>
    cases s with
    | nil => simp [after?]
    | cons c s =>
      rw [after?]
      by_cases h : m = c
      · simp [h, ih]
      · simp [h, Ne.symm h]

/-- A text is cut at a mark: what stands before its first occurrence, and what stands after it. -/
structure CutsAt (mark s before after : List Char) : Prop where
  eq : s = before ++ (mark ++ after)
  first : ∀ before' after', s = before' ++ (mark ++ after') → before.length ≤ before'.length

variable {mark s before after before' after' : List Char}

/-- There is only one first occurrence. -/
lemma CutsAt.unique (h : CutsAt mark s before after) (h' : CutsAt mark s before' after') :
    before' = before ∧ after' = after := by
  have hlength : before'.length = before.length :=
    Nat.le_antisymm (h'.first before after h.eq) (h.first before' after' h'.eq)
  obtain ⟨hbefore, hrest⟩ := List.append_inj (h'.eq.symm.trans h.eq) hlength
  exact ⟨hbefore, List.append_cancel_left hrest⟩

/-- A mark that is not at the beginning of a text occurs first where it does in the rest. -/
lemma CutsAt.cons {c : Char} (hstart : after? mark (c :: s) = none)
    (h : CutsAt mark s before after) : CutsAt mark (c :: s) (c :: before) after := by
  refine ⟨by rw [h.eq]; rfl, fun before' after' he => ?_⟩
  cases before' with
  | nil =>
    have hsome : after? mark (c :: s) = some after' := (after?_eq_some_iff _ _ _).mpr he
    rw [hstart] at hsome
    cases hsome
  | cons d before' =>
    obtain ⟨-, hs⟩ := List.cons.inj he
    have hle := h.first before' after' hs
    simpa using hle

/-- Where a mark is found it occurs first; a mark that is not found occurs nowhere. -/
lemma cutAt?_cases (mark s : List Char) :
    (∃ before after, cutAt? mark s = some (before, after) ∧ CutsAt mark s before after) ∨
      (cutAt? mark s = none ∧ ∀ before after, s ≠ before ++ (mark ++ after)) := by
  induction s with
  | nil =>
    cases mark with
    | nil => exact .inl ⟨[], [], rfl, rfl, fun _ _ _ => Nat.zero_le _⟩
    | cons m mark => exact .inr ⟨rfl, by simp⟩
  | cons c s ih =>
    rw [cutAt?]
    cases ha : after? mark (c :: s) with
    | some after =>
      have hs : c :: s = mark ++ after := (after?_eq_some_iff _ _ _).mp ha
      exact .inl ⟨[], after, rfl, hs, fun _ _ _ => Nat.zero_le _⟩
    | none =>
      rcases ih with ⟨before, after, hcut, hfirst⟩ | ⟨hnone, hnowhere⟩
      · exact .inl ⟨c :: before, after, by rw [hcut]; rfl, hfirst.cons ha⟩
      · refine .inr ⟨by rw [hnone]; rfl, fun before after he => ?_⟩
        cases before with
        | nil =>
          have hsome : after? mark (c :: s) = some after := (after?_eq_some_iff _ _ _).mpr he
          rw [ha] at hsome
          cases hsome
        | cons d before => exact hnowhere before after (List.cons.inj he).2

lemma cutAt?_eq_some_iff :
    cutAt? mark s = some (before, after) ↔ CutsAt mark s before after := by
  rcases cutAt?_cases mark s with ⟨b, a, hcut, hfirst⟩ | ⟨hnone, hnowhere⟩
  · rw [hcut, Option.some_inj, Prod.mk.injEq]
    constructor
    · rintro ⟨rfl, rfl⟩
      exact hfirst
    · exact fun h => h.unique hfirst
  · rw [hnone]
    constructor
    · rintro ⟨⟩
    · exact fun h => absurd h.eq (hnowhere before after)

lemma cutAt?_eq_none_iff :
    cutAt? mark s = none ↔ ∀ before after, s ≠ before ++ (mark ++ after) := by
  rcases cutAt?_cases mark s with ⟨before, after, hcut, hfirst⟩ | ⟨hnone, hnowhere⟩
  · rw [hcut]
    exact iff_of_false (by rintro ⟨⟩) fun h => h before after hfirst.eq
  · exact iff_of_true hnone hnowhere

/-- What stands between two marks. -/
lemma between?_eq_some_iff {opening closing inner : List Char} :
    between? opening closing s = some inner ↔
      ∃ before rest after, CutsAt opening s before rest ∧ CutsAt closing rest inner after := by
  rw [between?]
  constructor
  · intro h
    obtain ⟨⟨before, rest⟩, hopening, hinner⟩ := Option.bind_eq_some_iff.mp h
    obtain ⟨⟨_, after⟩, hclosing, rfl⟩ := Option.map_eq_some_iff.mp hinner
    exact ⟨before, rest, after, cutAt?_eq_some_iff.mp hopening, cutAt?_eq_some_iff.mp hclosing⟩
  · rintro ⟨before, rest, after, hopening, hclosing⟩
    rw [cutAt?_eq_some_iff.mpr hopening]
    simp only [Option.bind_some, cutAt?_eq_some_iff.mpr hclosing]
    rfl

end Text

namespace Format

/-- The integer that an address holds between the first occurrence of one mark and the next of
another. -/
def HoldsLength (opening closing url : String) (n : Int) : Prop :=
  ∃ before rest digits after, Text.CutsAt opening.toList url.toList before rest ∧
    Text.CutsAt closing.toList rest digits after ∧
    (Value.str (String.ofList digits)).toInt? = some n

lemma lengthInUrl?_eq_some_iff {opening closing url : String} {n : Int} :
    lengthInUrl? opening closing url = some n ↔ HoldsLength opening closing url n := by
  rw [lengthInUrl?, HoldsLength]
  constructor
  · intro h
    obtain ⟨digits, hd, hn⟩ := Option.bind_eq_some_iff.mp h
    obtain ⟨before, rest, after, hopening, hclosing⟩ := Text.between?_eq_some_iff.mp hd
    exact ⟨before, rest, digits, after, hopening, hclosing, hn⟩
  · rintro ⟨before, rest, digits, after, hopening, hclosing, hn⟩
    rw [Text.between?_eq_some_iff.mpr ⟨before, rest, after, hopening, hclosing⟩]
    exact hn

end Format

end PlayerPage
