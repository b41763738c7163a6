import Mathlib.Data.List.Nodup
import Mathlib.Tactic.Common
import PlayerPage.Form

/-!
Look-ups of names.

* `lookup_eq_some_iff_mem`: a name that occurs only once is looked up by membership.
* `lookup_congr`: two lists with the same values of a name agree on it, if it occurs only once in
  one of them.
* `lookup_selection`: a selection of names holds the same for each of them.
* `Members.get_of_perm`: the order of members does not matter; `Form.get?_congr`: neither does the
  order of fields, nor what fields of other names there are.
-/

namespace PlayerPage

section

variable {α : Type} {name : String} {a : α} {pairs pairs' : List (String × α)}

lemma mem_of_lookup (h : pairs.lookup name = some a) : (name, a) ∈ pairs := by
  obtain ⟨before, after, he, -⟩ := List.lookup_eq_some_iff.mp h
  simp [he]

lemma lookup_ne_none (h : (name, a) ∈ pairs) : pairs.lookup name ≠ none := by
  intro hn
  simpa using List.lookup_eq_none_iff.mp hn (name, a) h

/-- Among pairs with different names each is found by its name. -/
lemma lookup_eq_some_iff_mem (hn : (pairs.map Prod.fst).Nodup) :
    pairs.lookup name = some a ↔ (name, a) ∈ pairs := by
  refine ⟨mem_of_lookup, fun h => ?_⟩
  cases hl : pairs.lookup name with
  | none => exact absurd hl (lookup_ne_none h)
  | some b =>
    -- the two pairs have one name, and are therefore the same
    have he := List.inj_on_of_nodup_map hn h (mem_of_lookup hl) rfl
    rw [(Prod.mk.inj he).2]

/-- Two lists with the same values of a name agree on it, if the names in one are all different. -/
lemma lookup_congr (hn : (pairs'.map Prod.fst).Nodup)
    (h : ∀ a, (name, a) ∈ pairs ↔ (name, a) ∈ pairs') :
    pairs.lookup name = pairs'.lookup name := by
  cases hl : pairs.lookup name with
  | none =>
    cases hl' : pairs'.lookup name with
    | none => rfl
    | some a => exact absurd hl (lookup_ne_none ((h a).mpr (mem_of_lookup hl')))
  | some a => exact ((lookup_eq_some_iff_mem hn).mpr ((h a).mp (mem_of_lookup hl))).symm

/-- What is looked up for some names holds the same for each of them, and nothing for another. -/
lemma lookup_selection (pairs : List (String × α)) (names : List String) (name : String) :
    (names.filterMap fun n => (pairs.lookup n).map fun a => (n, a)).lookup name =
      if name ∈ names then pairs.lookup name else none := by
  induction names with
  | nil => rfl
  | cons n rest ih =>
    rw [List.filterMap_cons]
    by_cases hn : name = n
    · subst hn
      cases hv : pairs.lookup name with
      | none => simp [ih, hv]
      | some a => simp
    · have hbeq : (name == n) = false := by simp [hn]
      cases hv : pairs.lookup n with
      | none => simp [ih, hn]
      | some a => simp [List.lookup_cons, hbeq, ih, hn]

end

/-- The members of an object hold the same in another order. -/
lemma Members.get_of_perm {ms ms' : Members} (h : ms'.Perm ms)
    (hd : (ms'.map Prod.fst).Nodup) (key : String) :
    Members.get ms' key = Members.get ms key := by
  have hget : ms.lookup key = ms'.lookup key := lookup_congr hd fun _ => h.symm.mem_iff
  rw [Members.get, Members.get, get?, get?, hget]

/-- A form with the same values of a name as one whose names are all different has the same field
of this name. -/
lemma Form.get?_congr {form fields : List (String × String)} {name : String}
    (hn : (fields.map Prod.fst).Nodup)
    (h : ∀ value, (name, value) ∈ form ↔ (name, value) ∈ fields) :
    get? form name = get? fields name := by
  refine lookup_congr ?_ fun value => ?_
  · rw [List.map_reverse, List.nodup_reverse]
    exact hn
  · rw [List.mem_reverse, List.mem_reverse, h value]

end PlayerPage
