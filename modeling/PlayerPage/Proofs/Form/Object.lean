import Mathlib.Data.List.Induction
import PlayerPage.Proofs.Form.Writing
import PlayerPage.Proofs.Lookup

/-!
Form texts as objects.

* `Members.map_fst_put`: a member that is put into an object takes the place of the one of its
  name, or the last place.
* `Form.map_fst_toMembers`, `Form.get?_toMembers`: the object of a form has the names of the form,
  in the order of their first fields, and the value of the last field of each.
* `Form.LastOf`: a field that is the last of its name; `Form.get?_eq_some_iff` finds it.
* `Form.toMembers_of_writes`: however a form is written, its text is read as this object.
-/

namespace PlayerPage

/-! ### Members that are put into an object -/

namespace Members

variable {ms : Members} {key : String}

/-- The names after a member is put into an object. -/
lemma map_fst_put (ms : Members) (key : String) (value : Value) :
    (ms.put key value).map Prod.fst =
      if key ∈ ms.map Prod.fst then ms.map Prod.fst else ms.map Prod.fst ++ [key] := by
  induction ms with
  | nil => rfl
  | cons m rest ih =>
    obtain ⟨k, v⟩ := m
    by_cases hk : k = key
    · simp [put, hk]
    · by_cases hm : key ∈ rest.map Prod.fst
      · rw [if_pos hm] at ih
        simp [put, hk, ih, hm]
      · rw [if_neg hm] at ih
        simp [put, hk, ih, hm, Ne.symm hk]

/-- The names in an object stay different. -/
lemma nodup_put (h : (ms.map Prod.fst).Nodup) (key : String) (value : Value) :
    ((ms.put key value).map Prod.fst).Nodup := by
  rw [map_fst_put]
  split_ifs with hm
  · exact h
  · rw [← List.concat_eq_append]
    exact h.concat hm

end Members

namespace Form

/-! ### The object of a form -/

lemma toMembers_concat (form : List (String × String)) (name value : String) :
    toMembers (form ++ [(name, value)]) = (toMembers form).put name (.str value) := by
  simp [toMembers, Members.ofTexts, Members.ofAssignments]

/-- The names of the object of a form are those of the form, in the order of their first fields. -/
lemma map_fst_toMembers (form : List (String × String)) :
    (toMembers form).map Prod.fst = (form.map Prod.fst).eraseDups := by
  induction form using List.reverseRecOn with
  | nil => rfl
  | append_singleton form field ih =>
    obtain ⟨name, value⟩ := field
    have hadded : (form ++ [(name, value)]).map Prod.fst = form.map Prod.fst ++ [name] := by simp
    rw [toMembers_concat, Members.map_fst_put, ih, hadded, List.eraseDups_append]
    by_cases hm : name ∈ form.map Prod.fst
    · rw [if_pos (List.mem_eraseDups.mpr hm)]
      simp [hm, List.removeAll]
    · rw [if_neg fun h => hm (List.mem_eraseDups.mp h)]
      simp [hm, List.removeAll, List.eraseDups_cons]

lemma nodup_toMembers (form : List (String × String)) :
    ((toMembers form).map Prod.fst).Nodup := by
  induction form using List.reverseRecOn with
  | nil => exact List.nodup_nil
  | append_singleton form field ih =>
    obtain ⟨name, value⟩ := field
    rw [toMembers_concat]
    exact Members.nodup_put ih name (.str value)

/-- The members of the object of a form are the last fields of the form. -/
lemma get?_toMembers (form : List (String × String)) (name : String) :
    Members.get? (toMembers form) name = (get? form name).map .str := by
  induction form using List.reverseRecOn with
  | nil => rfl
  | append_singleton form field ih =>
    obtain ⟨n, value⟩ := field
    have hreverse : (form ++ [(n, value)]).reverse = (n, value) :: form.reverse := by simp
    rw [toMembers_concat, get?, hreverse, List.lookup_cons]
    by_cases hn : name = n
    · subst hn
      rw [Members.get?_put_self]
      simp
    · have hbeq : (name == n) = false := beq_eq_false_iff_ne.mpr hn
      rw [Members.get?_put_of_ne _ _ hn, ih, hbeq]
      rfl

/-! ### Last fields -/

/-- A field is the last one of its name in a form. -/
def LastOf (form : List (String × String)) (name value : String) : Prop :=
  ∃ before after, form = before ++ (name, value) :: after ∧ name ∉ after.map Prod.fst

lemma get?_eq_some_iff {form : List (String × String)} {name value : String} :
    get? form name = some value ↔ LastOf form name value := by
  rw [get?, List.lookup_eq_some_iff]
  constructor
  · rintro ⟨after, before, he, hafter⟩
    refine ⟨before.reverse, after.reverse, ?_, ?_⟩
    · rw [← List.reverse_reverse form, he]
      simp
    · simpa using fun v hm => hafter (name, v) hm
  · rintro ⟨before, after, rfl, hafter⟩
    refine ⟨after.reverse, before.reverse, by simp, ?_⟩
    rintro ⟨n, v⟩ hm
    rw [bne_iff_ne]
    rintro rfl
    exact hafter (List.mem_map_of_mem (List.mem_reverse.mp hm))

/-- **Forms written and read as objects.** However the fields of a form are written, its text is
read as an object with one member for each name, in the order in which the names first stand in the
form, and the value of the member is that of the last field of the name. -/
theorem toMembers_of_writes {escaped : Bool} {form : List (String × String)} {w : List Char}
    (h : Writes escaped form w) :
    let object := toMembers (ofValue escaped (.str (String.ofList w)))
    object.map Prod.fst = (form.map Prod.fst).eraseDups ∧ (object.map Prod.fst).Nodup ∧
      ∀ name v, (name, v) ∈ object ↔ ∃ value, LastOf form name value ∧ v = .str value := by
  intro object
  have hobject : object = toMembers form := congrArg toMembers (ofValue_of_writes h)
  rw [hobject]
  refine ⟨map_fst_toMembers form, nodup_toMembers form, fun name v => ?_⟩
  calc (name, v) ∈ toMembers form
      ↔ Members.get? (toMembers form) name = some v :=
        (lookup_eq_some_iff_mem (nodup_toMembers form)).symm
    _ ↔ ∃ value, get? form name = some value ∧ .str value = v := by
        rw [get?_toMembers, Option.map_eq_some_iff]
    _ ↔ ∃ value, LastOf form name value ∧ v = .str value := by
        simp only [get?_eq_some_iff, @eq_comm _ v]

/-- Three fields with two names, among them an empty one, marks and an escaped separator in the
values, and two ways to write a separator. -/
theorem toMembers_of_writes_escaped :
    let form := [("a&b", "x y"), ("", "\\u0026"), ("a&b", "=+é")]
    let text := "a%26b=x+y\\\\u0026=%5cu0026&a%26b=%3d%2b%c3%a9"
    let object := toMembers (ofValue true (.str text))
    Writes true form text.toList ∧ object.map Prod.fst = ["a&b", ""] ∧
      ("a&b", .str "=+é") ∈ object ∧ ("", .str "\\u0026") ∈ object := by
  intro form text object
  have hfirst : SpellsField ("a&b", "x y") "a%26b=x+y".toList :=
    .mk (spells_spell "a&b".toList) (.plain rfl (.space (.plain rfl .nil)))
  have hsecond : SpellsField ("", "\\u0026") "=%5cu0026".toList :=
    .mk (spells_spell "".toList) (spells_spell "\\u0026".toList)
  have hthird : SpellsField ("a&b", "=+é") "a%26b=%3d%2b%c3%a9".toList :=
    .mk (spells_spell "a&b".toList) (spells_spell "=+é".toList)
  have hw : Writes true form text.toList := by
    have hcut : text.toList = "a%26b=x+y".toList ++ "\\\\u0026".toList ++
        ("=%5cu0026".toList ++ "&".toList ++ "a%26b=%3d%2b%c3%a9".toList) := by decide
    rw [hcut]
    exact .cons hfirst (.escaped 1 rfl) (.cons hsecond .plain (.one hthird))
  have htext : String.ofList text.toList = text := String.ofList_toList
  obtain ⟨hnames, -, hmem⟩ := toMembers_of_writes hw
  rw [htext] at hnames hmem
  refine ⟨hw, hnames, (hmem _ _).mpr ?_, (hmem _ _).mpr ?_⟩
  · exact ⟨_, ⟨[("a&b", "x y"), ("", "\\u0026")], [], rfl, by simp⟩, rfl⟩
  · exact ⟨_, ⟨[("a&b", "x y")], [("a&b", "=+é")], rfl, by simp⟩, rfl⟩

end Form

end PlayerPage
