import PlayerPage.Proofs.Form.Writing

/-!
Form texts that stand for themselves.

* `Form.HoldsEscape`: a percent sign stands in a text with two hexadecimal digits after it;
  `Form.hexValue?_eq_some_iff` tells the digits.
* `Form.plain_of_literal`: without an escape and without plus signs a name or value is read as it
  stands, whatever percent signs there are.
* `Form.fields_of_literals`, `Form.fields_of_name`: a field of two such texts, and of a name alone.
-/

namespace PlayerPage.Form

open Text

/-! ### Escapes -/

/-- An escape stands in a text: a percent sign and two hexadecimal digits. -/
def HoldsEscape (s : List Char) : Prop :=
  ∃ before m high n low after,
    s = before ++ '%' :: high :: low :: after ∧ Digit m high ∧ Digit n low

section Escapes

variable {c high low : Char} {n : Nat} {s : List Char}

lemma not_holdsEscape_of_not_mem (h : '%' ∉ s) : ¬HoldsEscape s := by
  rintro ⟨before, m, high, n, low, after, rfl, -⟩
  simp at h

lemma not_holdsEscape_nil : ¬HoldsEscape [] := by
  rintro ⟨before, m, high, n, low, after, h, -⟩
  simp at h

/-- An escape stands at the front of a text or in the rest of it. -/
lemma holdsEscape_cons_iff :
    HoldsEscape (c :: s) ↔
      (c = '%' ∧ ∃ m high n low after, s = high :: low :: after ∧ Digit m high ∧ Digit n low) ∨
        HoldsEscape s := by
  constructor
  · rintro ⟨before, m, high, n, low, after, h, hdigits⟩
    cases before with
    | nil =>
      obtain ⟨rfl, rfl⟩ := List.cons.inj h
      exact .inl ⟨rfl, m, high, n, low, after, rfl, hdigits⟩
    | cons d before =>
      obtain ⟨rfl, rfl⟩ := List.cons.inj h
      exact .inr ⟨before, m, high, n, low, after, rfl, hdigits⟩
  · rintro (⟨rfl, m, high, n, low, after, rfl, hdigits⟩ | h)
    · exact ⟨[], m, high, n, low, after, rfl, hdigits⟩
    · obtain ⟨before, m, high, n, low, after, rfl, hdigits⟩ := h
      exact ⟨c :: before, m, high, n, low, after, rfl, hdigits⟩

/-- The characters with a value are the digits. -/
lemma hexValue?_eq_some_iff : hexValue? c = some n ↔ Digit n c := by
  refine ⟨fun h => ?_, Digit.hexValue?⟩
  have hofNat {m : Nat} (hm : m ≤ c.toNat) : Char.ofNat (m + (c.toNat - m)) = c := by
    rw [Nat.add_sub_cancel' hm, Char.ofNat_toNat]
  have hbounds {a b : Char} (h : a ≤ c ∧ c ≤ b) : a.toNat ≤ c.toNat ∧ c.toNat ≤ b.toNat := h
  rw [hexValue?] at h
  split_ifs at h with hdecimal hsmall hcapital
  · obtain rfl : c.toNat - 48 = n := by simpa using h
    have hc : 48 ≤ c.toNat ∧ c.toNat ≤ 57 := by
      simpa [Char.isDigit, UInt32.le_iff_toNat_le] using hdecimal
    simpa only [hofNat hc.1] using Digit.decimal (n := c.toNat - 48) (by omega)
  · obtain rfl : c.toNat - 87 = n := by simpa using h
    have hc : 97 ≤ c.toNat ∧ c.toNat ≤ 102 := hbounds (a := 'a') (b := 'f') (by simpa using hsmall)
    simpa only [hofNat (m := 87) (by omega)] using Digit.small (n := c.toNat - 87) (by omega)
  · obtain rfl : c.toNat - 55 = n := by simpa using h
    have hc : 65 ≤ c.toNat ∧ c.toNat ≤ 70 := hbounds (a := 'A') (b := 'F') (by simpa using hcapital)
    simpa only [hofNat (m := 55) (by omega)] using Digit.capital (n := c.toNat - 55) (by omega)

lemma hexByte?_eq_none (h : ¬HoldsEscape ('%' :: high :: low :: s)) : hexByte? high low = none := by
  cases hhigh : hexValue? high with
  | none => rw [hexByte?, hhigh]; rfl
  | some m =>
    cases hlow : hexValue? low with
    | none => rw [hexByte?, hhigh, hlow]; rfl
    | some n =>
      have hdigits := And.intro (hexValue?_eq_some_iff.mp hhigh) (hexValue?_eq_some_iff.mp hlow)
      exact absurd ⟨[], m, high, n, low, s, rfl, hdigits⟩ h

end Escapes

/-! ### Texts without escapes -/

section Literal

variable {s name value : List Char}

/-- Without an escape every character is a part by itself. -/
lemma partsOf_of_literal (h : ¬HoldsEscape s) : partsOf s = s.map Part.ofChar := by
  fun_induction partsOf s with
  | case1 high low rest b hb =>
    rw [hexByte?_eq_none h] at hb
    cases hb
  | case2 high low rest hb ih =>
    rw [ih fun hrest => h (holdsEscape_cons_iff.mpr (.inr hrest))]
    rfl
  | case3 c rest hc ih =>
    rw [ih fun hrest => h (holdsEscape_cons_iff.mpr (.inr hrest))]
    rfl
  | case4 => rfl

/-- Characters are joined to what is pending of a text. -/
lemma join_ofChar (t s : List Char) :
    join (Utf8.encode t).reverse (s.map Part.ofChar) = t ++ s := by
  induction s generalizing t with
  | nil =>
    rw [List.map_nil, join, List.reverse_reverse, Utf8.decode_encode, List.append_nil]
  | cons c s ih =>
    rw [List.map_cons, Part.ofChar]
    split_ifs with hc
    · -- a character of ASCII is one byte more that is pending
      have hbyte : UInt8.ofNat c.toNat :: (Utf8.encode t).reverse =
          (Utf8.encode (t ++ [c])).reverse := by
        simp [Utf8.encode, Utf8.encodeChar_of_lt hc]
      rw [join, hbyte, ih, List.append_assoc]
      rfl
    · have hrest : join [] (s.map Part.ofChar) = s := ih []
      rw [join, List.reverse_reverse, Utf8.decode_encode, hrest]

/-- A text without escapes and plus signs stands for itself. -/
lemma plain_of_literal (hs : '+' ∉ s) (h : ¬HoldsEscape s) : plain s = s := by
  have hspaces : (s.map fun c => if c == '+' then ' ' else c) = s := by
    refine (List.map_congr_left fun c hc => ?_).trans (List.map_id s)
    have hne : c ≠ '+' := fun he => hs (he ▸ hc)
    simp [hne]
  rw [plain, hspaces, unescape, partsOf_of_literal h]
  exact join_ofChar [] s

/-- A name and a value that stand for themselves are the only field of their text. -/
lemma fields_of_literals (hname : ∀ c ∈ ['&', '=', '+'], c ∉ name) (hn : ¬HoldsEscape name)
    (hvalue : ∀ c ∈ ['&', '+'], c ∉ value) (hv : ¬HoldsEscape value) :
    fields (name ++ '=' :: value) = [(String.ofList name, String.ofList value)] := by
  have hone : '&' ∉ name ++ '=' :: value := by
    have hn : '&' ∉ name := hname _ (by decide)
    have hv : '&' ∉ value := hvalue _ (by decide)
    simp [hn, hv]
  have hfield : field (name ++ '=' :: value) = (String.ofList name, String.ofList value) := by
    rw [field_append (hname _ (by decide)), plain_of_literal (hname _ (by decide)) hn,
      plain_of_literal (hvalue _ (by decide)) hv]
  rw [fields, pieces_of_not_mem hone]
  simp [hfield]

/-- A name alone is a field with an empty value. -/
lemma fields_of_name (hname : ∀ c ∈ ['&', '=', '+'], c ∉ name) (hn : ¬HoldsEscape name)
    (hne : name ≠ []) : fields name = [(String.ofList name, "")] := by
  have hfield : field name = (String.ofList name, "") := by
    rw [field, cutAtChar_of_not_mem (hname _ (by decide))]
    simp only [plain_of_literal (hname '+' (by decide)) hn]
    rfl
  rw [fields, pieces_of_not_mem (hname _ (by decide))]
  simp [hfield, hne]

end Literal

end PlayerPage.Form
