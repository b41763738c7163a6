import PlayerPage.Proofs.Form.Literal
import PlayerPage.Proofs.Form.Object

/-!
Form texts of any kind, piece by piece.

* `Form.restoreSeparators_append_separator`: no separator is restored across an `&`;
  `Form.ofValue_joined`: the fields of two texts with an `&` between them.
* `Form.get?_toMembers_append`, `Form.map_fst_toMembers_append`: more fields override and add
  members.
* `Form.decoded_piecewise`: what stands after an `&` overrides what stands before it, name by name,
  and a field without marks is read as it stands.
-/

namespace PlayerPage.Form

open Text

/-! ### Separators between texts -/

/-- A mark without an `&` that stands at the front of a text stands before its first `&`. -/
lemma exists_of_append_eq {mark s t rest : List Char} (hmark : '&' ∉ mark)
    (h : s ++ '&' :: t = mark ++ rest) : ∃ rest', s = mark ++ rest' := by
  rcases List.append_eq_append_iff.mp h with ⟨rest', hm, hrest⟩ | ⟨rest', hs, -⟩
  · cases rest' with
    | nil => exact ⟨[], by simpa using hm.symm⟩
    | cons c rest' =>
      obtain ⟨rfl, -⟩ := List.cons.inj hrest
      exact absurd (by simp [hm]) hmark
  · exact ⟨rest', hs⟩

/-- What stands before an `&` and what stands after it are restored each by itself, also if there
are backslashes at the end of the one or the rest of an escape at the front of the other. -/
lemma restoreFrom_append_separator (k : Nat) (s t : List Char) :
    restoreFrom k (s ++ '&' :: t) = restoreFrom k s ++ '&' :: restoreFrom 0 t := by
  fun_induction restoreFrom k s with
  | case1 k rest ih => exact ih
  | case2 k rest hk ih =>
    simp only [List.cons_append, restoreFrom, hk, ih, if_true]
  | case3 k rest hk ih =>
    simp only [List.cons_append, restoreFrom, hk, ih, Bool.false_eq_true, if_false]
  | case4 k c rest hslash hescape ih =>
    have hdigits : '&' ∉ ['0', '0', '2', '6'] := by decide
    have hmark (r : List Char) (hc : c = 'u') :
        rest ++ '&' :: t ≠ '0' :: '0' :: '2' :: '6' :: r := by
      intro h
      obtain ⟨r', hr⟩ := exists_of_append_eq hdigits h
      exact hescape r' hc hr
    rw [List.cons_append, restoreFrom, ih]
    · simp
    · exact hslash
    · exact hmark
  | case5 k => rfl

lemma restoreSeparators_append_separator (s t : List Char) :
    restoreSeparators (s ++ '&' :: t) = restoreSeparators s ++ '&' :: restoreSeparators t :=
  restoreFrom_append_separator 0 s t

lemma restoreSeparators_of_not_mem {s : List Char} (h : '\\' ∉ s) : restoreSeparators s = s := by
  simpa [restoreSeparators, restoreFrom] using restoreSeparators_append h []

/-- The fields of two texts with an `&` between them are those of the one and those of the other. -/
lemma ofValue_joined (escaped : Bool) (a b : String) :
    ofValue escaped (.str (a ++ "&" ++ b)) =
      ofValue escaped (.str a) ++ ofValue escaped (.str b) := by
  have hjoined : (a ++ "&" ++ b).toList = a.toList ++ '&' :: b.toList := by simp
  cases escaped with
  | false =>
    simp only [ofValue, hjoined, Bool.false_eq_true, if_false]
    exact fields_append _ _
  | true =>
    simp only [ofValue, hjoined, if_true]
    rw [restoreSeparators_append_separator, fields_append]

lemma ofValue_of_not_mem {s : String} (h : '\\' ∉ s.toList) (escaped : Bool) :
    ofValue escaped (.str s) = fields s.toList := by
  rw [ofValue, restoreSeparators_of_not_mem h, ite_self]

/-! ### Objects of more fields -/

lemma get?_toMembers_append (form more : List (String × String)) (name : String) :
    Members.get? (toMembers (form ++ more)) name =
      (Members.get? (toMembers more) name).or (Members.get? (toMembers form) name) := by
  rw [get?_toMembers, get?_toMembers, get?_toMembers, get?, List.reverse_append,
    List.lookup_append, Option.map_or]
  rfl

/-- The names of more fields follow those that were there, but for those that were there already. -/
lemma map_fst_toMembers_append (form more : List (String × String)) :
    (toMembers (form ++ more)).map Prod.fst =
      (toMembers form).map Prod.fst ++
        ((toMembers more).map Prod.fst).filter (· ∉ (toMembers form).map Prod.fst) := by
  induction more using List.reverseRecOn with
  | nil => simp [toMembers, Members.ofTexts, Members.ofAssignments]
  | append_singleton more field ih =>
    obtain ⟨name, value⟩ := field
    rw [← List.append_assoc, toMembers_concat, toMembers_concat, Members.map_fst_put,
      Members.map_fst_put, ih]
    by_cases hmore : name ∈ (toMembers more).map Prod.fst <;>
      by_cases hform : name ∈ (toMembers form).map Prod.fst <;> simp [hmore, hform]

/-- The object of a form text, in which separators may be written as escapes if said so. -/
def decoded (escaped : Bool) (s : String) : Members :=
  toMembers (ofValue escaped (.str s))

/-- **Form texts of any kind**, malformed ones included, and whether separators may be written as
escapes or not. Of two texts with an `&` between them, the second one overrides the first name by
name: a name has the value that the second text gives it, or else that of the first; and the names
are those of the first text, followed by the further ones of the second. A name without marks and a
value without separators, plus signs and escapes, where percent signs may stand otherwise, are read
as they stand, and so is a name alone, with an empty value. -/
theorem decoded_piecewise (escaped : Bool) :
    (∀ a b : String,
      let first := decoded escaped a
      let second := decoded escaped b
      let joined := decoded escaped (a ++ "&" ++ b)
      (∀ name, joined.get? name = (second.get? name).or (first.get? name)) ∧
        joined.map Prod.fst = first.map Prod.fst ++
          (second.map Prod.fst).filter (· ∉ first.map Prod.fst)) ∧
    ∀ name value : String, (∀ c ∈ ['&', '=', '+', '%', '\\'], c ∉ name.toList) →
      (∀ c ∈ ['&', '+', '\\'], c ∉ value.toList) → ¬HoldsEscape value.toList →
      decoded escaped (name ++ "=" ++ value) = [(name, .str value)] ∧
        (name ≠ "" → decoded escaped name = [(name, .str "")]) := by
  refine ⟨fun a b => ⟨fun name => ?_, ?_⟩, fun name value hname hvalue hv => ?_⟩
  · rw [decoded, ofValue_joined]
    exact get?_toMembers_append _ _ name
  · rw [decoded, ofValue_joined]
    exact map_fst_toMembers_append _ _
  · have hmarks : ∀ c ∈ ['&', '=', '+'], c ∉ name.toList := by
      simp only [List.forall_mem_cons] at hname ⊢
      exact ⟨hname.1, hname.2.1, hname.2.2.1, List.forall_mem_nil _⟩
    have hn : ¬HoldsEscape name.toList := not_holdsEscape_of_not_mem (hname '%' (by decide))
    have hname' : '\\' ∉ name.toList := hname _ (by decide)
    have hvalue' : '\\' ∉ value.toList := hvalue _ (by decide)
    refine ⟨?_, fun hne => ?_⟩
    · have hslash : '\\' ∉ (name ++ "=" ++ value).toList := by simp [hname', hvalue']
      have htext : (name ++ "=" ++ value).toList = name.toList ++ '=' :: value.toList := by simp
      have hmarks' : ∀ c ∈ ['&', '+'], c ∉ value.toList := by
        simp only [List.forall_mem_cons] at hvalue ⊢
        exact ⟨hvalue.1, hvalue.2.1, List.forall_mem_nil _⟩
      rw [decoded, ofValue_of_not_mem hslash, htext, fields_of_literals hmarks hn hmarks' hv,
        String.ofList_toList, String.ofList_toList]
      rfl
    · have hchars : name.toList ≠ [] := by simpa using hne
      rw [decoded, ofValue_of_not_mem hname', fields_of_name hmarks hn hchars,
        String.ofList_toList]
      rfl

/-- Backslashes at the end of one text and the rest of an escape at the front of the other do not
make up a separator, and percent signs that start no escape stay. -/
theorem decoded_piecewise_of_malformed :
    let joined := decoded true "y&x=1\\\\&u0026=%C3&x=2"
    joined.get? "x" = some (.str "2") ∧ joined.map Prod.fst = ["y", "x", "u0026"] ∧
      decoded true "a b=%4%zz=é%" = [("a b", .str "%4%zz=é%")] := by
  intro joined
  have hfirst : ofValue true (.str "y&x=1\\\\") = [("y", ""), ("x", "1\\\\")] := by decide +kernel
  have hsecond : ofValue true (.str "u0026=%C3&x=2") = [("u0026", "\uFFFD"), ("x", "2")] := by
    decide +kernel
  have hdigit {c : Char} (hc : hexValue? c = none) (n : Nat) : ¬Digit n c := by
    intro h
    rw [h.hexValue?] at hc
    cases hc
  have hsign : ∀ n, ¬Digit n '%' := hdigit rfl
  have hletter : ∀ n, ¬Digit n 'z' := hdigit rfl
  have hescape : ¬HoldsEscape "%4%zz=é%".toList := by
    simp [holdsEscape_cons_iff, not_holdsEscape_nil, hsign, hletter]
  obtain ⟨hjoined, hfield⟩ := decoded_piecewise true
  obtain ⟨hget, hnames⟩ := hjoined "y&x=1\\\\" "u0026=%C3&x=2"
  refine ⟨(hget "x").trans ?_, hnames.trans ?_, ?_⟩
  · rw [decoded, hsecond]
    rfl
  · rw [decoded, decoded, hfirst, hsecond]
    rfl
  · exact (hfield "a b" "%4%zz=é%" (by simp) (by simp) hescape).1

end PlayerPage.Form
