import Mathlib.Tactic.Common

/-!
Steps that may fail.

* `bind_eq_ok_iff`, `mapError_eq_ok_iff`: what a composed step, and one with another error,
  succeeds with.
* `CarriesOver`: what the one step succeeds with, the other one succeeds with, too; so do steps that
  are composed of such steps (`CarriesOver.bind`), even if the first one carries over only because
  the second one succeeds (`CarriesOver.chain`).
-/

namespace PlayerPage

lemma bind_eq_ok_iff {ε α β : Type} {x : Except ε α} {k : α → Except ε β} {b : β} :
    (x >>= k) = .ok b ↔ ∃ a, x = .ok a ∧ k a = .ok b := by
  cases x <;> simp [bind, Except.bind]

/-- A composed computation that succeeded did so in both steps. -/
lemma exists_of_bind_ok {ε α β : Type} {x : Except ε α} {k : α → Except ε β} {b : β}
    (h : (x >>= k) = .ok b) : ∃ a, x = .ok a ∧ k a = .ok b :=
  bind_eq_ok_iff.mp h

lemma eq_ok_of_toOption {ε α : Type} {x : Except ε α} {a : α} (h : x.toOption = some a) :
    x = .ok a := by
  cases x with
  | error e => cases h
  | ok b =>
    cases h
    rfl

lemma mapError_eq_ok_iff {ε δ α : Type} {f : ε → δ} {x : Except ε α} {a : α} :
    x.mapError f = .ok a ↔ x = .ok a := by
  cases x <;> simp [Except.mapError]

/-- What the one step succeeds with, the other one succeeds with, too. -/
def CarriesOver {ε α : Type} (x y : Except ε α) : Prop :=
  ∀ r, x = .ok r → y = .ok r

namespace CarriesOver

variable {ε δ α β : Type} {x y : Except ε α}

lemma refl (x : Except ε α) : CarriesOver x x :=
  fun _ h => h

lemma error (e : ε) : CarriesOver (.error e) y :=
  fun _ h => by cases h

/-- The first step may carry over only because the second one succeeds. -/
lemma chain {k l : α → Except ε β}
    (h : ∀ r q, x = .ok r → k r = .ok q → y = .ok r ∧ l r = .ok q) :
    CarriesOver (x >>= k) (y >>= l) := by
  cases x with
  | error e => exact error e
  | ok r =>
    intro q hq
    obtain ⟨rfl, hl⟩ := h r q rfl hq
    exact hl

lemma bind {k l : α → Except ε β} (h : CarriesOver x y)
    (hk : ∀ r, x = .ok r → CarriesOver (k r) (l r)) : CarriesOver (x >>= k) (y >>= l) :=
  chain fun r q hr hq => ⟨h r hr, hk r hr q hq⟩

lemma bind_same {k : α → Except ε β} (h : CarriesOver x y) : CarriesOver (x >>= k) (y >>= k) :=
  h.bind fun _ _ => refl _

lemma mapError {f : ε → δ} (h : CarriesOver x y) :
    CarriesOver (x.mapError f) (y.mapError f) := by
  cases x with
  | error e => exact error (f e)
  | ok r =>
    rw [h r rfl]
    exact refl _

end CarriesOver

end PlayerPage
