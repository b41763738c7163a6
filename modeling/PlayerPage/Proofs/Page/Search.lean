import PlayerPage.Proofs.Page.Field

/-!
The search for the field that gives the formats of a page.

* `Page.search`: the attempts at some fields in order; `Page.formats_eq_search`: the formats of a
  page are what comes of the attempts at all fields.
* `Page.Passed`: the attempts at some fields, all of which gave nothing.
* `Page.search_append_cases`: a search stops at the first field that does not give nothing, or goes
  on after all of them.
-/

namespace PlayerPage.Page

variable {p p' : Page} {access : Access} {s t u : Session} {source : FormatSource}
  {fields : List FormatSource} {outcome : Except Failure (List Format)}

/-! ### Attempts in order -/

/-- The attempts at some fields in order, up to the first one that does not give nothing. -/
def search (p : Page) (access : Access) : List FormatSource → Run (List Format)
  | [] => p.unrecognized
  | source :: rest => do
    let formats ← p.attempt access source
    if formats.isEmpty then p.search access rest else pure formats

lemma search_of_passed (h : p.attempt access source s = (.ok [], t))
    (rest : List FormatSource) : p.search access (source :: rest) s = p.search access rest t := by
  rw [search, Run.bind_of_ok h]
  rfl

lemma search_of_stop (h : p.attempt access source s = (outcome, t)) (ho : outcome ≠ .ok [])
    (rest : List FormatSource) : p.search access (source :: rest) s = (outcome, t) := by
  rw [search]
  rcases outcome with f | _ | ⟨format, formats⟩
  · rw [Run.bind_of_error h]
  · exact absurd rfl ho
  · rw [Run.bind_of_ok h]
    rfl

lemma firstOf_eq_search (fields : List FormatSource) (s : Session) :
    p.firstOf access
        (fields.filterMap fun source => (source.value? p.arguments).map fun v => (source, v)) s =
      p.search access fields s := by
  induction fields generalizing s with
  | nil => rfl
  | cons source rest ih =>
    cases hv : source.value? p.arguments with
    | none =>
      rw [List.filterMap_cons_none (by rw [hv]; rfl), ih,
        search_of_passed (attempt_of_absent hv s)]
    | some v =>
      -- a failure, no formats, or some: only the second goes on
      rw [List.filterMap_cons_some (by rw [hv]; rfl), firstOf]
      have ha : p.attempt access source s = _ := congrFun (attempt_of_present hv) s
      rcases hl : p.load access source v s with ⟨f | _ | ⟨format, formats⟩, t⟩
      · rw [Run.bind_of_error hl] at ha ⊢
        rw [search_of_stop ha (by simp)]
      · rw [Run.bind_of_ok hl] at ha ⊢
        show (p.remark source [] >>= fun _ => p.firstOf access _) t = _
        rcases hr : p.remark source [] t with ⟨f | _, u⟩
        · rw [Run.bind_of_error hr] at ha ⊢
          rw [search_of_stop ha (by simp)]
        · rw [Run.bind_of_ok hr] at ha ⊢
          rw [search_of_passed ha, ih]
      · rw [Run.bind_of_ok hl] at ha ⊢
        rw [search_of_stop ha (by simp)]
        rfl

/-- The formats of a page are what comes of the attempts at all fields. -/
lemma formats_eq_search (s : Session) :
    p.formats access s = p.search access FormatSource.all s :=
  firstOf_eq_search _ s

/-! ### Fields that were passed -/

/-- The attempts at some fields, one after the other, all gave nothing. -/
inductive Passed (p : Page) (access : Access) : List FormatSource → Session → Session → Prop
  | nil (s : Session) : Passed p access [] s s
  | cons {source : FormatSource} {rest : List FormatSource} {s t u : Session}
      (head : p.attempt access source s = (.ok [], t)) (tail : Passed p access rest t u) :
      Passed p access (source :: rest) s u

namespace Passed

/-- A search goes on after the fields that were passed. -/
lemma search_append (h : Passed p access fields s t) (rest : List FormatSource) :
    p.search access (fields ++ rest) s = p.search access rest t := by
  induction h with
  | nil s => rfl
  | cons head _ ih =>
    rw [List.cons_append, search_of_passed head, ih]

/-- Nothing was sent as long as there was no manifest among the fields. -/
lemma traffic (h : Passed p access fields s t) (hm : .manifest ∉ fields) : s.SameTraffic t := by
  induction h with
  | nil s => exact .refl s
  | @cons source rest s t u head _ ih =>
    rw [List.mem_cons, not_or] at hm
    have hs := (p.attempt_local access (Ne.symm hm.1)).traffic s
    rw [head] at hs
    exact hs.trans (ih hm.2)

/-- The fields that were passed give nothing, if there was no manifest among them. -/
lemma yieldless (h : Passed p access fields s t) (hm : .manifest ∉ fields) :
    ∀ source ∈ fields, p.Yieldless access s source := by
  induction h with
  | nil s => simp
  | @cons source rest s t u head _ ih =>
    rw [List.mem_cons, not_or] at hm
    intro field hf
    rcases List.mem_cons.mp hf with rfl | hf
    · exact yieldless_iff.mpr (share_of_attempt (by rw [head]))
    · have hne : field ≠ .manifest := fun he => hm.2 (he ▸ hf)
      rw [yieldless_iff, share_of_ne hne t s]
      exact yieldless_iff.mp (ih hm.2 field hf)

end Passed

variable (p access) in
/-- A search stops at the first of some fields that does not give nothing, or passes them all. -/
lemma search_append_cases (fields rest : List FormatSource) (s : Session) :
    (∃ before source after t, fields = before ++ source :: after ∧ Passed p access before s t ∧
        (p.attempt access source t).1 ≠ .ok [] ∧
        p.search access (fields ++ rest) s = p.attempt access source t) ∨
      ∃ t, Passed p access fields s t ∧
        p.search access (fields ++ rest) s = p.search access rest t := by
  induction fields generalizing s with
  | nil => exact .inr ⟨s, .nil s, rfl⟩
  | cons source fields ih =>
    rcases ha : p.attempt access source s with ⟨outcome, t⟩
    by_cases ho : outcome = .ok []
    · subst ho
      rw [List.cons_append, search_of_passed ha]
      rcases ih t with ⟨before, stop, after, u, hf, hp, hne, hs⟩ | ⟨u, hp, hs⟩
      · exact .inl ⟨source :: before, stop, after, u, by rw [hf]; rfl, .cons ha hp, hne, hs⟩
      · exact .inr ⟨u, .cons ha hp, hs⟩
    · refine .inl ⟨[], source, fields, s, rfl, .nil s, ?_, ?_⟩
      · rwa [ha]
      · rw [List.cons_append, search_of_stop ha ho, ha]

variable (p access) in
/-- Nothing is sent for fields without a manifest among them. -/
lemma search_local (hm : .manifest ∉ fields) : Run.Local (p.search access fields) := by
  induction fields with
  | nil => exact p.unrecognized_local
  | cons source rest ih =>
    rw [List.mem_cons, not_or] at hm
    refine .bind (p.attempt_local access (Ne.symm hm.1)) fun formats => ?_
    cases formats with
    | nil => exact ih hm.2
    | cons format formats => exact .pure _

end PlayerPage.Page
