import PlayerPage.Proofs.Text.Search
import PlayerPage.Value.Series

/-!
What stands between two marks.

* `Text.OccursAt`: a mark occurs at a place of a text; `Text.cutsAt_iff`: a text is cut where it
  does so first.
* `Text.between?_eq_none_iff`: nothing stands between two marks if one of them is missing.
* `Value.between_marks`: the text from the first occurrence of one mark to the nearest of another,
  and when there is none.
-/

namespace PlayerPage

namespace Text

/-- A mark occurs in a text, with `n` characters before it. -/
def OccursAt (mark s : String) (n : Nat) : Prop :=
  ∃ before after, s = before ++ mark ++ after ∧ before.length = n

variable {mark s before after : String}

lemma exists_toList (l : List Char) : ∃ t : String, t.toList = l :=
  ⟨String.ofList l, String.toList_ofList⟩

lemma eq_append_iff :
    s = before ++ mark ++ after ↔
      s.toList = before.toList ++ (mark.toList ++ after.toList) := by
  rw [String.ext_iff, String.toList_append, String.toList_append, List.append_assoc]

/-- A text is cut at a mark where it occurs first. -/
lemma cutsAt_iff :
    CutsAt mark.toList s.toList before.toList after.toList ↔
      s = before ++ mark ++ after ∧ ∀ n < before.length, ¬OccursAt mark s n := by
  constructor
  · intro h
    refine ⟨eq_append_iff.mpr h.eq, ?_⟩
    rintro n hn ⟨before', after', hs, rfl⟩
    have hle := h.first _ _ (eq_append_iff.mp hs)
    rw [String.length_toList, String.length_toList] at hle
    omega
  · rintro ⟨hs, hfirst⟩
    refine ⟨eq_append_iff.mp hs, fun before' after' he => ?_⟩
    obtain ⟨before', rfl⟩ := exists_toList before'
    obtain ⟨after', rfl⟩ := exists_toList after'
    have hoccurs : OccursAt mark s before'.length := ⟨before', after', eq_append_iff.mpr he, rfl⟩
    rw [String.length_toList, String.length_toList]
    by_contra hlt
    exact hfirst _ (by omega) hoccurs

/-- A mark occurs nowhere in a text that cannot be cut at it. -/
lemma forall_not_occursAt_iff :
    (∀ n, ¬OccursAt mark s n) ↔ ∀ before after, s.toList ≠ before ++ (mark.toList ++ after) := by
  constructor
  · intro h before after he
    obtain ⟨before, rfl⟩ := exists_toList before
    obtain ⟨after, rfl⟩ := exists_toList after
    exact h _ ⟨before, after, eq_append_iff.mpr he, rfl⟩
  · rintro h n ⟨before, after, hs, -⟩
    exact h _ _ (eq_append_iff.mp hs)

/-- Nothing stands between two marks if the first one occurs nowhere, or the second one nowhere
after the first occurrence of the first. -/
lemma between?_eq_none_iff {opening closing s : List Char} :
    between? opening closing s = none ↔
      (∀ before after, s ≠ before ++ (opening ++ after)) ∨
        ∃ before rest, CutsAt opening s before rest ∧
          ∀ inner after, rest ≠ inner ++ (closing ++ after) := by
  rw [between?, Option.bind_eq_none_iff]
  constructor
  · intro h
    cases hcut : cutAt? opening s with
    | none => exact .inl (cutAt?_eq_none_iff.mp hcut)
    | some found =>
      obtain ⟨before, rest⟩ := found
      have hclosing : cutAt? closing rest = none := Option.map_eq_none_iff.mp (h _ hcut)
      exact .inr ⟨before, rest, cutAt?_eq_some_iff.mp hcut, cutAt?_eq_none_iff.mp hclosing⟩
  · rintro (hnowhere | ⟨before, rest, hopening, hnowhere⟩) found hcut
    · rw [cutAt?_eq_none_iff.mpr hnowhere] at hcut
      cases hcut
    · rw [cutAt?_eq_some_iff.mpr hopening] at hcut
      cases hcut
      exact Option.map_eq_none_iff.mpr (cutAt?_eq_none_iff.mpr hnowhere)

end Text

namespace Value

open Text

variable {s opening closing : String}

lemma between_eq_str_iff {inner : String} :
    (str s).between (.str opening) (.str closing) = .ok (.str inner) ↔
      between? opening.toList closing.toList s.toList = some inner.toList := by
  rw [between]
  cases between? opening.toList closing.toList s.toList with
  | none => simp [ofOption]
  | some found => simp [ofOption, String.ext_iff]

lemma between_eq_null_iff :
    (str s).between (.str opening) (.str closing) = .ok .null ↔
      between? opening.toList closing.toList s.toList = none := by
  rw [between]
  cases between? opening.toList closing.toList s.toList <;> simp [ofOption]

/-- **The text between two marks**, which may be empty and overlap themselves or each other. It is
`inner` exactly if the text can be cut into something, the first mark, `inner`, the second mark and
something, where the first mark does not occur in the text any earlier, nor the second one in what
follows the first. It is null exactly if the first mark occurs nowhere, or the second one nowhere
after the first occurrence of the first. -/
theorem between_marks (s opening closing : String) :
    (∀ inner, (str s).between (.str opening) (.str closing) = .ok (.str inner) ↔
      ∃ before after, s = before ++ opening ++ inner ++ closing ++ after ∧
        (∀ n < before.length, ¬OccursAt opening s n) ∧
        ∀ n < inner.length, ¬OccursAt closing (inner ++ closing ++ after) n) ∧
    ((str s).between (.str opening) (.str closing) = .ok .null ↔
      (∀ n, ¬OccursAt opening s n) ∨
        ∃ before rest, s = before ++ opening ++ rest ∧
          (∀ n < before.length, ¬OccursAt opening s n) ∧ ∀ n, ¬OccursAt closing rest n) := by
  refine ⟨fun inner => ?_, ?_⟩
  · rw [between_eq_str_iff, between?_eq_some_iff]
    constructor
    · rintro ⟨before, rest, after, hopening, hclosing⟩
      obtain ⟨before, rfl⟩ := exists_toList before
      obtain ⟨rest, rfl⟩ := exists_toList rest
      obtain ⟨after, rfl⟩ := exists_toList after
      obtain ⟨rfl, hfirst⟩ := cutsAt_iff.mp hopening
      obtain ⟨rfl, hnearest⟩ := cutsAt_iff.mp hclosing
      exact ⟨before, after, by simp only [String.append_assoc], hfirst, hnearest⟩
    · rintro ⟨before, after, hs, hfirst, hnearest⟩
      have hcut : s = before ++ opening ++ (inner ++ closing ++ after) := by
        rw [hs]
        simp only [String.append_assoc]
      exact ⟨_, _, _, cutsAt_iff.mpr ⟨hcut, hfirst⟩, cutsAt_iff.mpr ⟨rfl, hnearest⟩⟩
  · rw [between_eq_null_iff, between?_eq_none_iff, ← forall_not_occursAt_iff]
    refine or_congr Iff.rfl ⟨?_, ?_⟩
    · rintro ⟨before, rest, hopening, hnowhere⟩
      obtain ⟨before, rfl⟩ := exists_toList before
      obtain ⟨rest, rfl⟩ := exists_toList rest
      obtain ⟨hs, hfirst⟩ := cutsAt_iff.mp hopening
      exact ⟨before, rest, hs, hfirst, forall_not_occursAt_iff.mpr hnowhere⟩
    · rintro ⟨before, rest, hs, hfirst, hnowhere⟩
      exact ⟨_, _, cutsAt_iff.mpr ⟨hs, hfirst⟩, forall_not_occursAt_iff.mp hnowhere⟩

/-- The second mark occurs before the first one and right after it. -/
example : (str "a/b/clen//c").between (.str "/clen/") (.str "/") = .ok (.str "") := by rfl

end Value

end PlayerPage
