import Mathlib.Tactic.Common
import PlayerPage.Proofs.Text.Utf8
import PlayerPage.Xml.Document

/-!
The glyphs of the bytes of texts.

* `Glyph.IsLawful`, `Encoding.isLawful_of_mem_glyphs`: whatever the encoding, no glyph is a
  character that a document may not hold.
* `Glyph.IsWhole`, `Encoding.IsBytewise.isWhole`: an encoding with a byte for every glyph has only
  characters and illegal glyphs.
* `utf8Glyphs_encode_toChar`: such glyphs are those of a text, written out in UTF-8.
* `Encoding.IsBytewise.glyphs_of_ascii`: bytes below 128 have the same glyphs there as in UTF-8, but
  for the tilde.
-/

namespace PlayerPage.Xml

/-! ### Which glyphs there are -/

/-- If the glyph is a character, a document may hold it. -/
def Glyph.IsLawful : Glyph → Prop
  | .char c => isAllowed c = true
  | _ => True

/-- The glyph is a character that a document may hold, or stands for one that it may not hold. -/
def Glyph.IsWhole : Glyph → Prop
  | .char c => isAllowed c = true
  | .illegal => True
  | _ => False

lemma Glyph.IsWhole.isLawful {g : Glyph} (h : g.IsWhole) : g.IsLawful := by
  cases g with
  | char c => exact h
  | illegal | broken | cut | half => exact trivial

lemma Glyph.isWhole_ofChar (c : Char) : (Glyph.ofChar c).IsWhole := by
  rw [Glyph.ofChar]
  split
  · next h => exact h
  · exact trivial

lemma Glyph.isLawful_ofChar (c : Char) : (Glyph.ofChar c).IsLawful :=
  (isWhole_ofChar c).isLawful

lemma isWhole_pageGlyph (upper : List Char) (b : UInt8) : (pageGlyph upper b).IsWhole := by
  rw [pageGlyph]
  split
  · exact Glyph.isWhole_ofChar _
  · cases upper[b.toNat - 128]? with
    | none => exact trivial
    | some c =>
      dsimp only
      split
      · exact trivial
      · exact Glyph.isWhole_ofChar _

lemma isWhole_tildelessGlyph (b : UInt8) : (tildelessGlyph b).IsWhole := by
  rw [tildelessGlyph]
  split
  · exact trivial
  · exact isWhole_pageGlyph [] b

lemma isLawful_of_mem_utf8Glyphs (skip : Nat) (bytes : List UInt8) :
    ∀ g ∈ utf8Glyphs skip bytes, g.IsLawful := by
  fun_induction utf8Glyphs skip bytes with
  | case1 => simp
  | case2 _ _ _ ih => exact ih
  | case3 _ _ _ ih => exact List.forall_mem_cons.mpr ⟨Glyph.isLawful_ofChar _, ih⟩
  | case4 _ _ _ _ ih => exact List.forall_mem_cons.mpr ⟨trivial, ih⟩
  | case5 => simp [Glyph.IsLawful]
  | case6 _ _ _ _ _ _ c _ _ ih =>
    refine List.forall_mem_cons.mpr ⟨?_, ih⟩
    split
    · next h => exact h
    · exact trivial
  | case7 _ _ _ _ _ _ _ _ _ ih => exact List.forall_mem_cons.mpr ⟨trivial, ih⟩

lemma isLawful_of_mem_utf16Glyphs (order : Text.Wide.Order) (bytes : List UInt8) :
    ∀ g ∈ utf16Glyphs order bytes, g.IsLawful := by
  fun_induction utf16Glyphs order bytes with
  | case1 => simp
  | case2 | case4 => simp [Glyph.IsLawful]
  | case3 _ _ _ _ _ _ _ _ ih | case6 _ _ _ _ _ _ ih =>
    exact List.forall_mem_cons.mpr ⟨Glyph.isLawful_ofChar _, ih⟩
  | case5 _ _ _ _ _ _ ih => exact List.forall_mem_cons.mpr ⟨trivial, ih⟩

namespace Encoding

/-- The encodings with a byte for every glyph. -/
def IsBytewise : Encoding → Prop
  | .latin | .ascii | .page _ | .tildeless => True
  | .utf8 | .utf16 _ => False

lemma IsBytewise.isWhole {encoding : Encoding} (h : encoding.IsBytewise) (bytes : List UInt8) :
    ∀ g ∈ encoding.glyphs bytes, g.IsWhole := by
  cases encoding with
  | utf8 | utf16 => exact h.elim
  | latin => exact List.forall_mem_map.mpr fun _ _ => Glyph.isWhole_ofChar _
  | ascii | page => exact List.forall_mem_map.mpr fun _ _ => isWhole_pageGlyph _ _
  | tildeless => exact List.forall_mem_map.mpr fun _ _ => isWhole_tildelessGlyph _

lemma IsBytewise.glyphs_drop {encoding : Encoding} (h : encoding.IsBytewise) (n : Nat)
    (bytes : List UInt8) : encoding.glyphs (bytes.drop n) = (encoding.glyphs bytes).drop n := by
  cases encoding with
  | utf8 | utf16 => exact h.elim
  | latin | ascii | page | tildeless => exact List.map_drop

/-- Whatever the encoding, a glyph is no character that a document may not hold. -/
lemma isLawful_of_mem_glyphs (encoding : Encoding) (bytes : List UInt8) :
    ∀ g ∈ encoding.glyphs bytes, g.IsLawful := by
  cases encoding with
  | utf8 => exact isLawful_of_mem_utf8Glyphs 0 bytes
  | utf16 order => exact isLawful_of_mem_utf16Glyphs order bytes
  | latin | ascii | page | tildeless =>
    exact fun g hg => (IsBytewise.isWhole (by trivial) bytes g hg).isLawful

end Encoding

/-! ### The glyphs of texts -/

/-- The first byte of a character of several bytes tells how many there are. -/
lemma leadSize?_of_step {b : UInt8} {rest : List UInt8} {c : Char} {size : Nat}
    (h : Text.Utf8.step b rest = .char c size) (hb : ¬b < 0x80) : leadSize? b = some size := by
  unfold Text.Utf8.step at h
  rw [if_neg hb] at h
  split at h
  · cases h
  next hstart =>
  have hlead : ¬(decide (b < 0xc0) || decide (0xf4 < b)) = true := by
    simp only [UInt8.lt_iff_toNat_lt, UInt8.reduceToNat, Bool.or_eq_true, decide_eq_true_eq]
      at hstart ⊢
    omega
  rw [leadSize?, if_neg hlead]
  split at h
  · next he0 =>
    rw [if_pos he0]
    repeat' split at h
    all_goals cases h
    rfl
  next he0 =>
  rw [if_neg he0]
  repeat' split at h
  all_goals cases h
  · next hf0 => rw [if_pos hf0]
  · next hf0 _ _ _ _ => rw [if_neg hf0]

/-- Bytes that belong to what stands before them are passed over. -/
lemma utf8Glyphs_append (tail rest : List UInt8) :
    utf8Glyphs tail.length (tail ++ rest) = utf8Glyphs 0 rest := by
  induction tail with
  | nil => rfl
  | cons b tail ih => exact ih

lemma utf8Glyphs_encodeChar_append {c : Char} (hc : isAllowed c = true) (rest : List UInt8) :
    utf8Glyphs 0 (String.utf8EncodeChar c ++ rest) = .char c :: utf8Glyphs 0 rest := by
  obtain ⟨b, tail, hbytes, hstep⟩ := Text.Utf8.exists_step_encode c
  rw [hbytes, List.cons_append, utf8Glyphs]
  split
  · next hb =>
    have h := Text.Utf8.step_one (tail ++ rest) (UInt8.lt_iff_toNat_lt.mp hb)
    rw [hstep rest] at h
    obtain ⟨hch, htail⟩ := Text.Utf8.Step.char.inj h
    obtain rfl : tail = [] := List.length_eq_zero_iff.mp (by omega)
    rw [← hch, Glyph.ofChar, if_pos hc, List.nil_append]
  · next hb =>
    have hlength : ¬((tail ++ rest).take tail.length).length < tail.length := by simp
    simp only [leadSize?_of_step (hstep rest) hb, hstep rest, Nat.add_sub_cancel, if_neg hlength,
      if_pos hc, utf8Glyphs_append]

/-- The character of a text that has the glyph. No document may hold U+0000, which stands for every
illegal one. -/
def Glyph.toChar : Glyph → Char
  | .char c => c
  | _ => '\x00'

/-- Whole glyphs are those of the text that their characters make up. -/
lemma utf8Glyphs_encode_toChar {s : List Glyph} (h : ∀ g ∈ s, g.IsWhole) :
    utf8Glyphs 0 (Text.Utf8.encode (s.map Glyph.toChar)) = s := by
  induction s with
  | nil => rfl
  | cons g s ih =>
    obtain ⟨hg, hs⟩ := List.forall_mem_cons.mp h
    rw [List.map_cons, Text.Utf8.encode, List.flatMap_cons]
    cases g with
    | char c => exact (utf8Glyphs_encodeChar_append hg _).trans (congrArg _ (ih hs))
    | illegal => exact congrArg (Glyph.illegal :: ·) (ih hs)
    | broken | cut | half => exact hg.elim

/-! ### ASCII -/

lemma utf8Glyphs_of_ascii {bytes : List UInt8} (h : ∀ b ∈ bytes, b < 0x80) :
    utf8Glyphs 0 bytes = bytes.map fun b => Glyph.ofChar (Char.ofNat b.toNat) := by
  induction bytes with
  | nil => rfl
  | cons b bytes ih =>
    obtain ⟨hb, hs⟩ := List.forall_mem_cons.mp h
    rw [utf8Glyphs, if_pos hb, ih hs, List.map_cons]

/-- Bytes below 128 have the same glyphs in every encoding with a byte for every glyph, but for the
tilde. -/
lemma Encoding.IsBytewise.glyphs_of_ascii {encoding : Encoding} (he : encoding.IsBytewise)
    {bytes : List UInt8} (h : ∀ b ∈ bytes, b < 0x80 ∧ (encoding = .tildeless → b ≠ 0x7e)) :
    encoding.glyphs bytes = utf8Glyphs 0 bytes := by
  have hascii : ∀ b ∈ bytes, b < 0x80 := fun b hb => (h b hb).1
  have hpage (upper : List Char) : bytes.map (pageGlyph upper) = utf8Glyphs 0 bytes := by
    rw [utf8Glyphs_of_ascii hascii]
    exact List.map_congr_left fun b hb => if_pos (hascii b hb)
  cases encoding with
  | utf8 | utf16 => exact he.elim
  | latin => exact (utf8Glyphs_of_ascii hascii).symm
  | ascii => exact hpage []
  | page upper => exact hpage upper
  | tildeless =>
    refine Eq.trans (List.map_congr_left fun b hb => if_neg ?_) (hpage [])
    simpa using (h b hb).2 rfl

end PlayerPage.Xml
