import Mathlib.Tactic.Common
import Mathlib.Tactic.IntervalCases
import PlayerPage.Form
import PlayerPage.Proofs.Text.Utf8

/-!
Form texts, written and read.

* `Form.Spells`: the ways to write a name or a value; `Form.plain_of_spells`: each is read as what
  was written.
* `Form.Writes`: the ways to write the fields of a form, where separators may be written as escapes
  themselves.
* `Form.fields_of_writes`, `Form.ofValue_of_writes`: a form text has the fields that were written,
  in order.
* `Form.write`: one way to write a form, which every form has (`Form.writes_write`).
-/

namespace PlayerPage.Form

open Text

/-! ### Ways to write -/

/-- The characters that stand for themselves in a form text. -/
def isUnreserved (c : Char) : Bool :=
  c.isAlphanum || c == '_' || c == '.' || c == '-' || c == '~'

/-- The ways to write a hexadecimal digit, with small or capital letters. -/
inductive Digit : Nat → Char → Prop
  | decimal {n : Nat} (h : n < 10) : Digit n (Char.ofNat (48 + n))
  | small {n : Nat} (h : 10 ≤ n ∧ n < 16) : Digit n (Char.ofNat (87 + n))
  | capital {n : Nat} (h : 10 ≤ n ∧ n < 16) : Digit n (Char.ofNat (55 + n))

/-- The ways to write bytes as escapes: for each a percent sign and two digits. -/
inductive Escapes : List UInt8 → List Char → Prop
  | nil : Escapes [] []
  | cons {b : UInt8} {bytes : List UInt8} {high low : Char} {w : List Char}
      (hhigh : Digit (b.toNat / 16) high) (hlow : Digit (b.toNat % 16) low)
      (h : Escapes bytes w) : Escapes (b :: bytes) ('%' :: high :: low :: w)

/-- The ways to write a name or a value: unreserved characters stand for themselves, a plus sign for
a space, and the escapes of its bytes for any character. -/
inductive Spells : List Char → List Char → Prop
  | nil : Spells [] []
  | plain {c : Char} {s w : List Char} (hc : isUnreserved c) (h : Spells s w) :
      Spells (c :: s) (c :: w)
  | space {s w : List Char} (h : Spells s w) : Spells (' ' :: s) ('+' :: w)
  | escaped {c : Char} {s e w : List Char} (he : Escapes (String.utf8EncodeChar c) e)
      (h : Spells s w) : Spells (c :: s) (e ++ w)

/-- The ways to write a field. -/
inductive SpellsField : String × String → List Char → Prop
  | mk {name value : String} {n v : List Char} (hname : Spells name.toList n)
      (hvalue : Spells value.toList v) : SpellsField (name, value) (n ++ '=' :: v)

/-- The ways to write a separator of fields; some backslashes and `u0026` count only if said so. -/
inductive Separates (escaped : Bool) : List Char → Prop
  | plain : Separates escaped ['&']
  | escaped (slashes : Nat) (h : escaped = true) :
      Separates escaped (List.replicate (slashes + 1) '\\' ++ ['u', '0', '0', '2', '6'])

/-- The ways to write the fields of a form. -/
inductive Writes (escaped : Bool) : List (String × String) → List Char → Prop
  | nil : Writes escaped [] []
  | one {f : String × String} {w : List Char} (hf : SpellsField f w) : Writes escaped [f] w
  | cons {f g : String × String} {form : List (String × String)} {w sep t : List Char}
      (hf : SpellsField f w) (hsep : Separates escaped sep) (h : Writes escaped (g :: form) t) :
      Writes escaped (f :: g :: form) (w ++ sep ++ t)

/-! ### Characters of written texts -/

/-- The characters that written names and values consist of. -/
def isWritten (c : Char) : Bool :=
  isUnreserved c || c == '+' || c == '%'

section Characters

variable {n : Nat} {c : Char} {s w : List Char} {bytes : List UInt8}

lemma toNat_lt_of_isUnreserved (h : isUnreserved c) : c.toNat < 0x80 := by
  simp only [isUnreserved, Bool.or_eq_true, beq_iff_eq] at h
  rcases h with (((h | rfl) | rfl) | rfl) | rfl
  · change (decide (65 ≤ c.val ∧ c.val ≤ 90) || (97 ≤ c.val && c.val ≤ 122) ||
      (48 ≤ c.val && c.val ≤ 57)) = true at h
    simp only [Bool.or_eq_true, Bool.and_eq_true, decide_eq_true_eq, UInt32.le_iff_toNat_le] at h
    change ((65 ≤ c.toNat ∧ c.toNat ≤ 90) ∨ (97 ≤ c.toNat ∧ c.toNat ≤ 122)) ∨
      (48 ≤ c.toNat ∧ c.toNat ≤ 57) at h
    omega
  all_goals decide

namespace Digit

lemma hexValue? (h : Digit n c) : hexValue? c = some n := by
  cases h with
  | decimal h => interval_cases n <;> rfl
  | small h | capital h =>
    obtain ⟨h1, h2⟩ := h
    interval_cases n <;> rfl

lemma isWritten (h : Digit n c) : isWritten c := by
  cases h with
  | decimal h => interval_cases n <;> rfl
  | small h | capital h =>
    obtain ⟨h1, h2⟩ := h
    interval_cases n <;> rfl

lemma ne_plus (h : Digit n c) : c ≠ '+' := by
  rintro rfl
  cases h.hexValue?

end Digit

lemma Escapes.isWritten (h : Escapes bytes w) : ∀ c ∈ w, isWritten c := by
  induction h with
  | nil => simp
  | cons hhigh hlow _ ih =>
    intro c hc
    simp only [List.mem_cons] at hc
    rcases hc with rfl | rfl | rfl | hc
    · rfl
    · exact hhigh.isWritten
    · exact hlow.isWritten
    · exact ih c hc

lemma Spells.isWritten (h : Spells s w) : ∀ c ∈ w, isWritten c := by
  induction h with
  | nil => simp
  | plain hc _ ih => simpa [Form.isWritten, hc] using ih
  | space _ ih => simpa [Form.isWritten] using ih
  | escaped he _ ih =>
    intro c hc
    rcases List.mem_append.mp hc with hc | hc
    · exact he.isWritten c hc
    · exact ih c hc

/-- A mark that is no part of written names and values. -/
lemma Spells.not_mem (h : Spells s w) (mark : Char) (hm : Form.isWritten mark = false) :
    mark ∉ w := by
  intro hc
  rw [h.isWritten mark hc] at hm
  cases hm

lemma SpellsField.not_mem {f : String × String} (h : SpellsField f w) (mark : Char)
    (hm : Form.isWritten mark = false) (he : mark ≠ '=') : mark ∉ w := by
  cases h with
  | mk hname hvalue => simp [hname.not_mem mark hm, hvalue.not_mem mark hm, he]

end Characters

/-! ### Names and values -/

section Spelling

variable {b : UInt8} {c : Char} {s w : List Char} {bytes : List UInt8}

/-- A plus sign is a space before escapes are looked at. -/
def unplus (c : Char) : Char :=
  if c == '+' then ' ' else c

lemma hexByte?_of_digits {high low : Char} (hhigh : Digit (b.toNat / 16) high)
    (hlow : Digit (b.toNat % 16) low) : hexByte? high low = some b := by
  have hb : b.toNat / 16 * 16 + b.toNat % 16 = b.toNat := by omega
  have h : hexByte? high low =
      some (UInt8.ofNat (b.toNat / 16 * 16 + b.toNat % 16)) := by
    rw [hexByte?, hhigh.hexValue?, hlow.hexValue?]
    rfl
  rw [h, hb, UInt8.ofNat_toNat]

/-- Escapes are read as the bytes that were written. -/
lemma partsOf_escapes_append {e : List Char} (he : Escapes bytes e) (rest : List Char) :
    partsOf ((e ++ rest).map unplus) = bytes.map .byte ++ partsOf (rest.map unplus) := by
  induction he with
  | nil => rfl
  | @cons b bytes high low e hhigh hlow _ ih =>
    have hh : unplus high = high := by simp [unplus, hhigh.ne_plus]
    have hl : unplus low = low := by simp [unplus, hlow.ne_plus]
    have hp : unplus '%' = '%' := rfl
    simp only [List.cons_append, List.map_cons, hh, hl, hp]
    rw [partsOf, hexByte?_of_digits hhigh hlow]
    simp only
    rw [ih]

lemma partsOf_cons_of_ne (h : c ≠ '%') (rest : List Char) :
    partsOf (c :: rest) = .ofChar c :: partsOf rest := by
  rw [partsOf]
  rintro a b rest rfl
  exact absurd rfl h

/-- A character of ASCII that starts no escape is its byte. -/
lemma partsOf_cons_ascii (h : c.toNat < 0x80) (hc : c ≠ '%') (rest : List Char) :
    partsOf (c :: rest) = (String.utf8EncodeChar c).map .byte ++ partsOf rest := by
  rw [partsOf_cons_of_ne hc, Utf8.encodeChar_of_lt h, Part.ofChar, if_pos h]
  rfl

/-- A written name or value consists of the bytes of what was written. -/
lemma partsOf_of_spells (h : Spells s w) :
    partsOf (w.map unplus) = (Utf8.encode s).map .byte := by
  induction h with
  | nil => rfl
  | @plain c s w hc _ ih =>
    have hp : c ≠ '%' := by
      rintro rfl
      cases hc
    have hu : unplus c = c := by
      rw [unplus, if_neg]
      rintro h
      rw [beq_iff_eq] at h
      subst h
      cases hc
    rw [List.map_cons, hu, partsOf_cons_ascii (toNat_lt_of_isUnreserved hc) hp, ih,
      Utf8.encode, Utf8.encode, List.flatMap_cons, List.map_append]
  | @space s w _ ih =>
    have hu : unplus '+' = ' ' := rfl
    rw [List.map_cons, hu, partsOf_cons_ascii (by decide) (by decide), ih,
      Utf8.encode, Utf8.encode, List.flatMap_cons, List.map_append]
  | escaped he _ ih =>
    rw [partsOf_escapes_append he, ih, Utf8.encode, Utf8.encode, List.flatMap_cons,
      List.map_append]

/-- Bytes alone are decoded together. -/
lemma join_bytes (pending bytes : List UInt8) :
    join pending (bytes.map .byte) = Utf8.decode (pending.reverse ++ bytes) := by
  induction bytes generalizing pending with
  | nil => rw [List.append_nil]; rfl
  | cons b bytes ih =>
    rw [List.map_cons, join, ih, List.reverse_cons, List.append_assoc]
    rfl

/-- A written name or value is read as what was written. -/
theorem plain_of_spells (h : Spells s w) : plain w = s := by
  show join [] (partsOf (w.map unplus)) = s
  rw [partsOf_of_spells h, join_bytes]
  exact Utf8.decode_encode s

end Spelling

/-! ### Fields -/

section Fields

variable {f : String × String} {form : List (String × String)} {w : List Char}

/-- A piece is a field with what stands before its first `=`, and what stands after it. -/
lemma field_append {name : List Char} (h : '=' ∉ name) (value : List Char) :
    field (name ++ '=' :: value) =
      (String.ofList (plain name), String.ofList (plain value)) := by
  rw [field, cutAtChar_append h]

lemma field_of_spells (h : SpellsField f w) : field w = f := by
  cases h with
  | mk hname hvalue =>
    rw [field_append (hname.not_mem '=' rfl)]
    simp [plain_of_spells hname, plain_of_spells hvalue]

lemma SpellsField.ne_nil (h : SpellsField f w) : w ≠ [] := by
  cases h with
  | mk => simp

lemma fields_of_spells (h : SpellsField f w) : fields w = [f] := by
  rw [fields, pieces_of_not_mem (h.not_mem '&' rfl (by decide))]
  simp [h.ne_nil, field_of_spells h]

lemma fields_append (s t : List Char) : fields (s ++ '&' :: t) = fields s ++ fields t := by
  rw [fields, pieces_append, List.filter_append, List.map_append, fields, fields]

/-- A form text with separators that count as such has the fields that were written. -/
theorem fields_of_writes (h : Writes false form w) : fields w = form := by
  induction h with
  | nil => rfl
  | one hf => exact fields_of_spells hf
  | cons hf hsep _ ih =>
    cases hsep with
    | plain =>
      rw [List.append_assoc, List.singleton_append, fields_append, fields_of_spells hf, ih]
      rfl
    | escaped slashes h => cases h

/-! ### Separators that are written as escapes -/

lemma restoreFrom_slashes (k n : Nat) (rest : List Char) :
    restoreFrom k (List.replicate n '\\' ++ rest) = restoreFrom (k + n) rest := by
  induction n generalizing k with
  | zero => rfl
  | succ n ih =>
    rw [List.replicate_succ, List.cons_append, restoreFrom, ih]
    congr 1
    omega

/-- Without a backslash in front of it every character stays. -/
lemma restoreSeparators_cons {c : Char} (hc : c ≠ '\\') (rest : List Char) :
    restoreSeparators (c :: rest) = c :: restoreSeparators rest := by
  simp only [restoreSeparators]
  rw [restoreFrom.eq_def]
  split
  · simp_all
  · next r h =>
    obtain ⟨rfl, rfl⟩ := List.cons.inj h
    -- the four digits are no backslashes either, and none of them starts a separator
    rfl
  · next h =>
    obtain ⟨rfl, rfl⟩ := List.cons.inj h
    rfl
  · simp_all

lemma restoreSeparators_append {s : List Char} (hs : '\\' ∉ s) (rest : List Char) :
    restoreSeparators (s ++ rest) = s ++ restoreSeparators rest := by
  induction s with
  | nil => rfl
  | cons c s ih =>
    rw [List.mem_cons, not_or] at hs
    rw [List.cons_append, restoreSeparators_cons (Ne.symm hs.1), ih hs.2]
    rfl

/-- Every way to write a separator is restored to the plain one. -/
lemma restoreSeparators_separator {escaped : Bool} {sep : List Char} (h : Separates escaped sep)
    (rest : List Char) : restoreSeparators (sep ++ rest) = '&' :: restoreSeparators rest := by
  cases h with
  | plain => exact restoreSeparators_cons (by decide) rest
  | escaped slashes _ =>
    rw [List.append_assoc, restoreSeparators, restoreFrom_slashes]
    simp [restoreFrom, restoreSeparators]

/-- With its separators restored a form text is one whose separators are plain. -/
lemma Writes.restored {escaped : Bool} (h : Writes escaped form w) :
    Writes false form (restoreSeparators w) := by
  induction h with
  | nil => exact .nil
  | @one f w hf =>
    have hr := restoreSeparators_append (hf.not_mem '\\' rfl (by decide)) []
    rw [List.append_nil] at hr
    rw [hr]
    simpa [restoreSeparators, restoreFrom] using Writes.one hf
  | @cons f g form w sep t hf hsep _ ih =>
    rw [List.append_assoc, restoreSeparators_append (hf.not_mem '\\' rfl (by decide)),
      restoreSeparators_separator hsep]
    simpa using Writes.cons hf .plain ih

/-- **Forms there and back.** However the fields of a form are written, the value that is this text
has these fields, in this order. -/
theorem ofValue_of_writes {escaped : Bool} (h : Writes escaped form w) :
    ofValue escaped (.str (String.ofList w)) = form := by
  rw [ofValue, String.toList_ofList]
  cases escaped with
  | false => exact fields_of_writes h
  | true => exact fields_of_writes h.restored

/-- A mark that is no part of written forms. -/
lemma Writes.not_mem (h : Writes false form w) (mark : Char) (hm : isWritten mark = false)
    (he : mark ≠ '=') (ha : mark ≠ '&') : mark ∉ w := by
  induction h with
  | nil => exact List.not_mem_nil
  | one hf => exact hf.not_mem mark hm he
  | cons hf hsep _ ih =>
    cases hsep with
    | plain => simp [hf.not_mem mark hm he, ha, ih]
    | escaped slashes h => cases h

/-- A form with a field in it is not written as nothing. -/
lemma Writes.ne_nil {escaped : Bool} (h : Writes escaped (f :: form) w) : w ≠ [] := by
  rintro rfl
  have hf := ofValue_of_writes h
  cases escaped <;> cases hf

end Fields

/-! ### One way to write -/

/-- The escapes of bytes. -/
def escape (bytes : List UInt8) : List Char :=
  bytes.flatMap fun b => ['%', hexDigit (b.toNat / 16), hexDigit (b.toNat % 16)]

/-- A name or value with escapes only where they must stand. -/
def spell (s : List Char) : List Char :=
  s.flatMap fun c => if isUnreserved c then [c] else escape (String.utf8EncodeChar c)

/-- A form with `sep` for its separators. -/
def write (sep : List Char) (form : List (String × String)) : List Char :=
  sep.intercalate (form.map fun f => spell f.1.toList ++ '=' :: spell f.2.toList)

section Writer

variable {escaped : Bool} {sep : List Char}

lemma digit_hexDigit {n : Nat} (h : n < 16) : Digit n (hexDigit n) := by
  rw [hexDigit]
  split_ifs with hn
  · exact .decimal hn
  · exact .small ⟨by omega, h⟩

lemma escapes_escape (bytes : List UInt8) : Escapes bytes (escape bytes) := by
  induction bytes with
  | nil => exact .nil
  | cons b bytes ih =>
    have hb := b.toNat_lt
    exact .cons (digit_hexDigit (by omega)) (digit_hexDigit (by omega)) ih

lemma spells_spell (s : List Char) : Spells s (spell s) := by
  induction s with
  | nil => exact .nil
  | cons c s ih =>
    rw [spell, List.flatMap_cons]
    split_ifs with hc
    · exact .plain hc ih
    · exact .escaped (escapes_escape _) ih

/-- Every form can be written. -/
lemma writes_write (h : Separates escaped sep) (form : List (String × String)) :
    Writes escaped form (write sep form) := by
  have hfield (f : String × String) : SpellsField f (spell f.1.toList ++ '=' :: spell f.2.toList) :=
    .mk (spells_spell _) (spells_spell _)
  induction form with
  | nil => exact .nil
  | cons f form ih =>
    cases form with
    | nil =>
      rw [write, List.map_singleton, List.intercalate_singleton]
      exact .one (hfield f)
    | cons g form =>
      rw [write, List.map_cons, List.map_cons, List.intercalate_cons_cons]
      exact .cons (hfield f) h ih

example : String.ofList (write ['&'] [("é", "a,b c"), ("x", "")]) = "%c3%a9=a%2cb%20c&x=" := by
  decide

end Writer

end PlayerPage.Form
