import Mathlib.Data.List.TakeWhile
import Mathlib.Tactic.Common
import PlayerPage.Decimal.Integer
import PlayerPage.Value.Coerce

/-!
Integers there and back.

* `Decimal.Integer.digits`: the digits of an integer, without a sign.
* `Decimal.Integer.read_digits`: what a run of plain digits is read as.
* `Decimal.Integer.read_render`: the notation of an integer is read as this integer, unless it has
  too many digits; `Value.toInt?_render` is the same for a value.
-/

namespace PlayerPage.Decimal.Integer

/-- The digits of an integer, without a sign. -/
def digits (n : Int) : List Char :=
  Nat.toDigits 10 n.natAbs

lemma render_eq (n : Int) : render n = if n < 0 then '-' :: digits n else digits n := rfl

section Digits

variable {c : Char} {ds : List Char}

lemma isDigit_iff : c.isDigit = true ↔ 48 ≤ c.toNat ∧ c.toNat ≤ 57 := by
  simp only [Char.isDigit, Bool.and_eq_true, decide_eq_true_eq, UInt32.le_iff_toNat_le]
  rfl

/-- A digit is no blank, no sign and no underscore. -/
lemma ne_of_isDigit (h : c.isDigit) : c ≠ '-' ∧ c ≠ '+' ∧ c ≠ '_' := by
  refine ⟨?_, ?_, ?_⟩ <;>
  · rintro rfl
    cases h

lemma not_isAsciiBlank (h : c.isDigit) : isAsciiBlank c = false := by
  rw [isDigit_iff] at h
  have hs : c ≠ ' ' := by
    rintro rfl
    exact absurd h.1 (by decide)
  simp [isAsciiBlank, hs]
  omega

lemma toAscii_of_lt {s : List Char} (h : ∀ c ∈ s, c.toNat < 0x80) : toAscii s = s := by
  rw [toAscii, if_pos (by simpa using h)]

lemma sign_digits (h : c.isDigit) (rest : List Char) :
    sign (c :: rest) = (false, c :: rest) := by
  obtain ⟨hm, hp, -⟩ := ne_of_isDigit h
  rw [sign.eq_def]
  split <;> simp_all

lemma spacedWell_digits (hne : ds ≠ []) (hd : ∀ c ∈ ds, c.isDigit) : spacedWell ds = true := by
  have hgo (start : Bool) (h : start = true → ds ≠ []) : spacedWell.go start ds = true := by
    clear hne
    induction ds generalizing start with
    | nil => simpa [spacedWell.go] using h
    | cons c ds ih =>
      obtain ⟨-, -, hu⟩ := ne_of_isDigit (hd c (by simp))
      rw [spacedWell.go, if_neg (by simpa using hu)]
      exact ih (fun c hc => hd c (by simp [hc])) false (by simp)
  exact hgo true fun _ => hne

/-- A run of plain digits after the blanks and the sign of a text. -/
lemma read_of_sign {s : List Char} {negative : Bool}
    (hs : sign ((toAscii s).dropWhile isAsciiBlank) = (negative, ds)) (hne : ds ≠ [])
    (hd : ∀ c ∈ ds, c.isDigit) (hlen : ds.length ≤ maxDigits) :
    read s = .ok (if negative then -(value 0 ds : Int) else value 0 ds) := by
  have hrun : ∀ c ∈ ds, (c.isDigit || c == '_') = true := fun c hc => by simp [hd c hc]
  have htake : ds.takeWhile (fun c => c.isDigit || c == '_') = ds :=
    List.takeWhile_eq_self_iff.mpr hrun
  have hdrop : ds.dropWhile (fun c => c.isDigit || c == '_') = [] :=
    List.dropWhile_eq_nil_iff.mpr hrun
  have hfilter : ds.filter (· != '_') = ds :=
    List.filter_eq_self.mpr fun c hc => by simpa using (ne_of_isDigit (hd c hc)).2.2
  rw [read, hs]
  simp only [htake, hdrop, hfilter, spacedWell_digits hne hd]
  rw [if_neg (by simp), if_neg (by omega), if_neg (by simp)]

/-- What a run of plain digits is read as, without and with a minus sign. -/
lemma read_digits (hne : ds ≠ []) (hd : ∀ c ∈ ds, c.isDigit) (hlen : ds.length ≤ maxDigits) :
    read ds = .ok (value 0 ds : Int) ∧ read ('-' :: ds) = .ok (-(value 0 ds : Int)) := by
  have hascii : ∀ c ∈ ds, c.toNat < 0x80 := fun c hc => by
    have h := isDigit_iff.mp (hd c hc)
    omega
  constructor
  · have hsign : sign ((toAscii ds).dropWhile isAsciiBlank) = (false, ds) := by
      rw [toAscii_of_lt hascii]
      cases ds with
      | nil => exact absurd rfl hne
      | cons c ds =>
        have hc := hd c (by simp)
        rw [List.dropWhile_cons_of_neg (by simp [not_isAsciiBlank hc]), sign_digits hc]
    exact read_of_sign hsign hne hd hlen
  · have hminus : ∀ c ∈ '-' :: ds, c.toNat < 0x80 := by
      intro c hc
      rcases List.mem_cons.mp hc with rfl | hc
      · decide
      · exact hascii c hc
    have hsign : sign ((toAscii ('-' :: ds)).dropWhile isAsciiBlank) = (true, ds) := by
      rw [toAscii_of_lt hminus]
      rfl
    exact read_of_sign hsign hne hd hlen

end Digits

lemma value_eq_ofDigitChars (m : Nat) (ds : List Char) :
    value m ds = Nat.ofDigitChars 10 ds m := by
  induction ds generalizing m with
  | nil => exact Nat.ofDigitChars_nil.symm
  | cons c ds ih =>
    have hv : value m (c :: ds) = value (m * 10 + (c.toNat - 48)) ds := rfl
    rw [hv, ih, Nat.ofDigitChars_cons, Nat.mul_comm]
    rfl

lemma value_digits (n : Int) : value 0 (digits n) = n.natAbs := by
  rw [value_eq_ofDigitChars, digits, Nat.ofDigitChars_ten_toDigits]

/-- The notation of an integer is read as this integer. -/
theorem read_render {n : Int} (h : (digits n).length ≤ maxDigits) : read (render n) = .ok n := by
  have hd : ∀ c ∈ digits n, c.isDigit := fun c hc =>
    Nat.isDigit_of_mem_toDigits (by decide) (by decide) hc
  have hne : digits n ≠ [] := Nat.toDigits_ne_nil
  obtain ⟨hplain, hminus⟩ := read_digits hne hd h
  rw [value_digits] at hplain hminus
  rw [render_eq]
  split_ifs with hn
  · rw [hminus]
    congr 1
    omega
  · rw [hplain]
    congr 1
    omega

end PlayerPage.Decimal.Integer

namespace PlayerPage

/-- A value that is the notation of an integer denotes this integer. -/
lemma Value.toInt?_render {n : Int}
    (h : (Decimal.Integer.digits n).length ≤ Decimal.Integer.maxDigits) :
    (Value.str (String.ofList (Decimal.Integer.render n))).toInt? = some n := by
  simp only [toInt?, integer, integerOfText, String.toList_ofList, Decimal.Integer.read_render h]
  rfl

end PlayerPage
