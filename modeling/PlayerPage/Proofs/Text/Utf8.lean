import Mathlib.Tactic.Common
import PlayerPage.Text.Utf8

/-!
UTF-8 there and back.

* `Utf8.step_one`, …, `Utf8.step_four`: what stands at the front of bytes, by the size of the
  character.
* `Utf8.exists_step_encode`: at the front of the bytes of a character stands this character.
* `Utf8.decode_encode`: the bytes of a text are read as this text.
-/

namespace PlayerPage.Text.Utf8

/-! ### The front of bytes -/

lemma isTail_iff {b : UInt8} : isTail b = true ↔ 0x80 ≤ b.toNat ∧ b.toNat ≤ 0xbf := by
  simp [isTail, UInt8.le_iff_toNat_le]

/-- Four first bytes bound the second one more narrowly than the rest: no character has two
encodings, none stands for half of a pair, and none is beyond the last one. -/
lemma not_beyond_secondRange {b c : UInt8} (hc : isTail c)
    (he0 : b.toNat = 0xe0 → 0xa0 ≤ c.toNat) (hed : b.toNat = 0xed → c.toNat ≤ 0x9f)
    (hf0 : b.toNat = 0xf0 → 0x90 ≤ c.toNat) (hf4 : b.toNat = 0xf4 → c.toNat ≤ 0x8f) :
    (decide (c < (secondRange b).1) || decide ((secondRange b).2 < c)) = false := by
  rw [isTail_iff] at hc
  simp only [secondRange, beq_iff_eq, ← UInt8.toNat_inj, UInt8.lt_iff_toNat_lt, UInt8.reduceToNat,
    Bool.or_eq_false_iff, decide_eq_false_iff_not]
  split_ifs <;> simp only [UInt8.reduceToNat] <;> omega

section Step

variable {b c d e : UInt8} (rest : List UInt8)

lemma step_one (h : b.toNat < 0x80) : step b rest = .char (Char.ofNat b.toNat) 1 := by
  unfold step
  rw [if_pos (by rwa [UInt8.lt_iff_toNat_lt])]

lemma step_two (hb : 0xc2 ≤ b.toNat ∧ b.toNat < 0xe0) (hc : isTail c) :
    step b (c :: rest) = .char (Char.ofNat (number 5 b [c])) 2 := by
  unfold step
  simp only [UInt8.lt_iff_toNat_lt, UInt8.reduceToNat, Bool.or_eq_true, decide_eq_true_eq]
  rw [if_neg (by omega), if_neg (by omega), if_pos hb.2, if_pos hc]

/-- The first byte of a character of three or four bytes. -/
lemma lead_bounds (hb : 0xe0 ≤ b.toNat ∧ b.toNat ≤ 0xf4) :
    ¬b < 0x80 ∧ ¬(decide (b < 0xc2) || decide (0xf4 < b)) = true ∧ ¬b < 0xe0 := by
  simp only [UInt8.lt_iff_toNat_lt, UInt8.reduceToNat, Bool.or_eq_true, decide_eq_true_eq]
  omega

lemma step_three (hb : 0xe0 ≤ b.toNat ∧ b.toNat < 0xf0)
    (hc : (decide (c < (secondRange b).1) || decide ((secondRange b).2 < c)) = false)
    (hd : isTail d) :
    step b (c :: d :: rest) = .char (Char.ofNat (number 4 b [c, d])) 3 := by
  obtain ⟨h80, hstart, he0⟩ := lead_bounds (b := b) ⟨hb.1, by omega⟩
  have hf0 : b < 0xf0 := UInt8.lt_iff_toNat_lt.mpr hb.2
  unfold step
  rw [if_neg h80, if_neg hstart, if_neg he0]
  simp only [hc, hd, if_pos hf0, Bool.not_true, Bool.false_eq_true, if_false]

lemma step_four (hb : 0xf0 ≤ b.toNat ∧ b.toNat ≤ 0xf4)
    (hc : (decide (c < (secondRange b).1) || decide ((secondRange b).2 < c)) = false)
    (hd : isTail d) (he : isTail e) :
    step b (c :: d :: e :: rest) = .char (Char.ofNat (number 3 b [c, d, e])) 4 := by
  obtain ⟨h80, hstart, he0⟩ := lead_bounds (b := b) ⟨by omega, hb.2⟩
  have hf0 : ¬b < 0xf0 := by
    simp only [UInt8.lt_iff_toNat_lt, UInt8.reduceToNat]
    omega
  unfold step
  rw [if_neg h80, if_neg hstart, if_neg he0]
  simp only [hc, hd, he, if_neg hf0, Bool.not_true, Bool.false_eq_true, if_false, if_true]

end Step

/-! ### The bytes of a character -/

section Encode

variable {v : Nat} {b c d e : UInt8} (rest : List UInt8)

lemma step_encode_two (hb : b.toNat = v / 64 + 0xc0) (hc : c.toNat = v % 64 + 0x80)
    (h : 0x80 ≤ v ∧ v < 0x800) : step b (c :: rest) = .char (Char.ofNat v) 2 := by
  have hn : number 5 b [c] = v := by
    show b.toNat % 32 * 64 + c.toNat % 64 = v
    omega
  rw [step_two rest (by omega) (isTail_iff.mpr (by omega)), hn]

/-- Halves of pairs are no characters, so that the second byte keeps its bounds. -/
lemma step_encode_three (hb : b.toNat = v / 4096 + 0xe0) (hc : c.toNat = v / 64 % 64 + 0x80)
    (hd : d.toNat = v % 64 + 0x80) (h : 0x800 ≤ v ∧ v < 0x10000)
    (hv : v < 0xd800 ∨ 0xdfff < v) : step b (c :: d :: rest) = .char (Char.ofNat v) 3 := by
  have hsecond := not_beyond_secondRange (b := b) (c := c) (isTail_iff.mpr (by omega)) (by omega)
    (by omega) (by omega) (by omega)
  have hn : number 4 b [c, d] = v := by
    show (b.toNat % 16 * 64 + c.toNat % 64) * 64 + d.toNat % 64 = v
    omega
  rw [step_three rest (by omega) hsecond (isTail_iff.mpr (by omega)), hn]

lemma step_encode_four (hb : b.toNat = v / 262144 + 0xf0) (hc : c.toNat = v / 4096 % 64 + 0x80)
    (hd : d.toNat = v / 64 % 64 + 0x80) (he : e.toNat = v % 64 + 0x80)
    (h : 0x10000 ≤ v ∧ v < 0x110000) :
    step b (c :: d :: e :: rest) = .char (Char.ofNat v) 4 := by
  have hsecond := not_beyond_secondRange (b := b) (c := c) (isTail_iff.mpr (by omega)) (by omega)
    (by omega) (by omega) (by omega)
  have hn : number 3 b [c, d, e] = v := by
    show ((b.toNat % 8 * 64 + c.toNat % 64) * 64 + d.toNat % 64) * 64 + e.toNat % 64 = v
    omega
  rw [step_four rest (by omega) hsecond (isTail_iff.mpr (by omega)) (isTail_iff.mpr (by omega)),
    hn]

end Encode

lemma toNat_byte {m n : Nat} (h : m = n) (hn : n < 0x100) : (UInt8.ofNat m).toNat = n := by
  simp
  omega

/-- At the front of the bytes of a character stands this character, with all of them. -/
lemma exists_step_encode (c : Char) :
    ∃ b tail, String.utf8EncodeChar c = b :: tail ∧
      ∀ rest, step b (tail ++ rest) = .char c (tail.length + 1) := by
  have hcases : c.toNat < 0xd800 ∨ 0xdfff < c.toNat ∧ c.toNat < 0x110000 := c.valid
  have hval : c.val.toNat = c.toNat := rfl
  rw [String.utf8EncodeChar]
  simp only [hval]
  split_ifs with h1 h2 h3
  · refine ⟨_, _, rfl, fun rest => ?_⟩
    have hb : (UInt8.ofNat c.toNat).toNat = c.toNat := toNat_byte rfl (by omega)
    rw [List.nil_append, step_one rest (by omega), hb, Char.ofNat_toNat]
    rfl
  · refine ⟨_, _, rfl, fun rest => ?_⟩
    have hlead : (UInt8.ofNat (c.toNat / 64 % 0x20 + 0xc0)).toNat = c.toNat / 64 + 0xc0 :=
      toNat_byte (by omega) (by omega)
    have hstep := step_encode_two rest hlead (toNat_byte rfl (by omega)) (by omega)
    rwa [Char.ofNat_toNat] at hstep
  · refine ⟨_, _, rfl, fun rest => ?_⟩
    have hlead : (UInt8.ofNat (c.toNat / 4096 % 0x10 + 0xe0)).toNat = c.toNat / 4096 + 0xe0 :=
      toNat_byte (by omega) (by omega)
    have hstep := step_encode_three rest hlead (toNat_byte rfl (by omega))
      (toNat_byte rfl (by omega)) (by omega) (by omega)
    rwa [Char.ofNat_toNat] at hstep
  · refine ⟨_, _, rfl, fun rest => ?_⟩
    have hlead : (UInt8.ofNat (c.toNat / 262144 % 0x08 + 0xf0)).toNat = c.toNat / 262144 + 0xf0 :=
      toNat_byte (by omega) (by omega)
    have hstep := step_encode_four rest hlead (toNat_byte rfl (by omega))
      (toNat_byte rfl (by omega)) (toNat_byte rfl (by omega)) (by omega)
    rwa [Char.ofNat_toNat] at hstep

/-! ### ASCII -/

lemma encodeChar_of_lt {c : Char} (h : c.toNat < 0x80) :
    String.utf8EncodeChar c = [UInt8.ofNat c.toNat] := by
  have hle : c.val.toNat ≤ 0x7f := by
    have hval : c.val.toNat = c.toNat := rfl
    omega
  rw [String.utf8EncodeChar, if_pos hle]
  rfl

lemma encode_of_ascii {s : List Char} (h : ∀ c ∈ s, c.toNat < 0x80) :
    encode s = s.map fun c => UInt8.ofNat c.toNat := by
  induction s with
  | nil => rfl
  | cons c s ih =>
    obtain ⟨hc, hs⟩ := List.forall_mem_cons.mp h
    rw [encode, List.flatMap_cons, encodeChar_of_lt hc, List.map_cons]
    exact congrArg (UInt8.ofNat c.toNat :: ·) (ih hs)

/-! ### Texts -/

/-- Bytes that belong to what stands before them are passed over. -/
lemma decodeFrom_append (tail rest : List UInt8) :
    decodeFrom tail.length (tail ++ rest) = decodeFrom 0 rest := by
  induction tail with
  | nil => rfl
  | cons b tail ih => exact ih

lemma decode_encodeChar_append (c : Char) (rest : List UInt8) :
    decode (String.utf8EncodeChar c ++ rest) = c :: decode rest := by
  obtain ⟨b, tail, hc, hstep⟩ := exists_step_encode c
  rw [hc, List.cons_append, decode, decodeFrom, hstep rest]
  exact congrArg (c :: ·) (decodeFrom_append tail rest)

/-- The bytes of a text are read as this text. -/
theorem decode_encode (s : List Char) : decode (encode s) = s := by
  induction s with
  | nil => rfl
  | cons c s ih =>
    rw [encode, List.flatMap_cons, decode_encodeChar_append]
    exact congrArg (c :: ·) ih

end PlayerPage.Text.Utf8
