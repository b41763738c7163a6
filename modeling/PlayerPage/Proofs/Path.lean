import Mathlib.Tactic.Common
import PlayerPage.Value.Find

/-!
Paths into values.

* `Value.descend_append`: a path in two parts leads where its second part leads from where the first
  one does; `Value.isVoid_descend`: nothing is found in nothing.
* `Value.IsPath`, `Value.keysOf`: the values that are paths, and their keys.
* `Value.descendAny_eq`, `Value.findWhere_eq`: paths that are values are followed like those that
  are keys, without fail.
* `Value.findWhere_laws`: paths may be followed in parts, and further paths are a default for the
  ones before them.
-/

namespace PlayerPage.Value

/-! ### Descents -/

section Descent

variable {v : Value}

lemma child_null (key : Key) : null.child key = null := by
  cases key <;> rfl

lemma descend_null (path : List Key) : null.descend path = null := by
  cases path with
  | nil => rfl
  | cons key path => rw [descend, child_null]

/-- A path is followed key by key. -/
lemma descend_cons (v : Value) (key : Key) (path : List Key) :
    v.descend (key :: path) = (v.child key).descend path := by
  rw [descend]
  split
  · next h => rw [h, descend_null]
  · rfl

/-- A path in two parts leads where its second part leads from the end of the first one. -/
lemma descend_append (v : Value) (p q : List Key) :
    v.descend (p ++ q) = (v.descend p).descend q := by
  induction p generalizing v with
  | nil => rfl
  | cons key p ih => rw [List.cons_append, descend_cons, descend_cons, ih]

/-- There is nothing in an empty object, and nothing in null. -/
lemma isVoid_child (h : v.isVoid = true) (key : Key) : (v.child key).isVoid = true := by
  cases v with
  | null =>
    rw [child_null]
    rfl
  | object ms =>
    obtain rfl : ms = [] := List.isEmpty_iff.mp h
    cases key <;> rfl
  | bool | int | float | str | bytes | list | tuple => cases h

lemma isVoid_descend (h : v.isVoid = true) (path : List Key) :
    (v.descend path).isVoid = true := by
  induction path generalizing v with
  | nil => exact h
  | cons key path ih =>
    rw [descend_cons]
    exact ih (isVoid_child h key)

/-- Only null and the empty object count as nothing. -/
lemma isVoid_eq_false_iff : v.isVoid = false ↔ v ≠ null ∧ v ≠ object [] := by
  cases v <;> simp [isVoid]

end Descent

/-! ### Paths that are values -/

/-- A value is a path: one key, or a list of keys, each of which is null, a string or an integer. -/
def IsPath (path : Value) : Prop :=
  ∀ key ∈ path.parts, key.key?.isSome = true

/-- The keys of a path. -/
def keysOf (path : Value) : List Key :=
  path.parts.filterMap key?

/-- What a path leads to, if this is acceptable and not nothing. -/
def offer (v : Value) (accepts : Value → Bool) (path : Value) : Option Value :=
  let w := v.descend path.keysOf
  if accepts w && !w.isVoid then some w else none

section Paths

variable {path : Value} {paths : List Value}

/-- Keys that are values are followed like those that they stand for. -/
lemma descendAny_eq (v : Value) {keys : List Value} (h : ∀ key ∈ keys, key.key?.isSome = true) :
    v.descendAny keys = .ok (v.descend (keys.filterMap key?)) := by
  induction keys generalizing v with
  | nil => rfl
  | cons key keys ih =>
    obtain ⟨k, hk⟩ := Option.isSome_iff_exists.mp (h key List.mem_cons_self)
    have hrest (w : Value) := ih w fun x hx => h x (List.mem_cons_of_mem _ hx)
    have hchild : v.childAt key = .ok (v.child k) := by simp only [childAt, hk]
    rw [descendAny, hchild, List.filterMap_cons_some hk, descend_cons]
    cases v.child k with
    | null => rw [descend_null]; rfl
    | _ => exact hrest _

/-- A search among paths does not fail. It gives what the first path offers that offers anything. -/
lemma findWhere_eq (v : Value) (h : ∀ path ∈ paths, IsPath path) (accepts : Value → Bool)
    (default : Value) :
    v.findWhere paths accepts default =
      .ok ((paths.findSome? (v.offer accepts)).getD default) := by
  induction paths with
  | nil => rfl
  | cons path paths ih =>
    have hdescend := v.descendAny_eq (h path List.mem_cons_self)
    have hrest := ih fun p hp => h p (List.mem_cons_of_mem _ hp)
    have hstep : v.findWhere (path :: paths) accepts default =
        if accepts (v.descend path.keysOf) && !(v.descend path.keysOf).isVoid then
          .ok (v.descend path.keysOf)
        else v.findWhere paths accepts default := by
      rw [findWhere, hdescend]
      rfl
    rw [hstep, hrest, List.findSome?_cons, offer]
    split_ifs <;> rfl

/-- The search for a value of a kind is the same for paths that are values and paths that are
keys. -/
lemma findAny_eq (v : Value) (h : ∀ path ∈ paths, IsPath path) (expected : Option Kind)
    (default : Value) :
    v.findAny paths expected default = .ok (v.find (paths.map keysOf) expected default) := by
  rw [findAny, findWhere_eq v h, find, find?, List.findSome?_map]
  rfl

/-- A path leads to something that is acceptable, and that is neither null nor the empty object. -/
structure Reaches (v : Value) (accepts : Value → Bool) (path w : Value) : Prop where
  descend : v.descend path.keysOf = w
  accepted : accepts w = true
  not_null : w ≠ null
  not_empty : w ≠ object []

lemma offer_eq_some_iff {v w : Value} {accepts : Value → Bool} :
    v.offer accepts path = some w ↔ v.Reaches accepts path w := by
  constructor
  · intro h
    have hoffer : (if accepts (v.descend path.keysOf) && !(v.descend path.keysOf).isVoid then
        some (v.descend path.keysOf) else none) = some w := h
    split_ifs at hoffer with hcond
    obtain rfl := Option.some_inj.mp hoffer
    obtain ⟨haccepted, hvoid⟩ := Bool.and_eq_true_iff.mp hcond
    obtain ⟨hnull, hempty⟩ := isVoid_eq_false_iff.mp (Bool.not_eq_true' _ ▸ hvoid)
    exact ⟨rfl, haccepted, hnull, hempty⟩
  · rintro ⟨rfl, haccepted, hnull, hempty⟩
    have hvoid := isVoid_eq_false_iff.mpr ⟨hnull, hempty⟩
    simp [offer, haccepted, hvoid]

/-- What a search comes to: the default, if no path reaches anything, or else what the first path
reaches that reaches anything. -/
inductive Comes (v : Value) (accepts : Value → Bool) (default : Value) : List Value → Value → Prop
  | reached {path w : Value} {rest : List Value} (h : v.Reaches accepts path w) :
      Comes v accepts default (path :: rest) w
  | passed {path w : Value} {rest : List Value} (h : ∀ u, ¬ v.Reaches accepts path u)
      (hrest : Comes v accepts default rest w) : Comes v accepts default (path :: rest) w
  | default : Comes v accepts default [] default

lemma comes_findSome? (v : Value) (paths : List Value) (accepts : Value → Bool)
    (default : Value) :
    Comes v accepts default paths ((paths.findSome? (v.offer accepts)).getD default) := by
  induction paths with
  | nil => exact .default
  | cons path paths ih =>
    rw [List.findSome?_cons]
    cases hoffer : v.offer accepts path with
    | some w => exact .reached (offer_eq_some_iff.mp hoffer)
    | none =>
      refine .passed (fun u hu => ?_) ih
      rw [offer_eq_some_iff.mpr hu] at hoffer
      cases hoffer

/-- What one path leads to, where nothing is null. -/
lemma findAny_singleton (v : Value) (h : IsPath path) : v.findAny [path] none null =
    .ok (if (v.descend path.keysOf).isVoid then null else v.descend path.keysOf) := by
  rw [findAny, findWhere_eq v (by simpa using h)]
  cases hvoid : (v.descend path.keysOf).isVoid <;> simp [offer, hvoid, isOfKind]

/-- A path in two parts is followed part by part. -/
lemma findAny_parts (v : Value) {p q r : Value} (hp : IsPath p) (hq : IsPath q)
    (hr : r.parts = p.parts ++ q.parts) :
    ∃ w, v.findAny [p] none null = .ok w ∧ v.findAny [r] none null = w.findAny [q] none null := by
  have hpath : IsPath r := by
    intro key hkey
    rcases List.mem_append.mp (hr ▸ hkey) with h | h
    · exact hp key h
    · exact hq key h
  have hkeys : v.descend r.keysOf = (v.descend p.keysOf).descend q.keysOf := by
    rw [← descend_append, keysOf, hr, List.filterMap_append, keysOf, keysOf]
  refine ⟨_, findAny_singleton v hp, ?_⟩
  rw [findAny_singleton v hpath, findAny_singleton _ hq, hkeys]
  cases hvoid : (v.descend p.keysOf).isVoid with
  | false => rfl
  | true =>
    -- nothing is found in nothing, be it null or the empty object
    have hrest := isVoid_descend hvoid q.keysOf
    simp [hrest, descend_null]

end Paths

/-- **Paths in parts, and paths as defaults.** With paths whose keys are nulls, strings and integers
no search fails, whatever it accepts.
* It comes to what the first path reaches that reaches anything acceptable other than null and the
  empty object, or else to the default. To search for values of a kind is the same for paths that
  are values and paths that are keys.
* To follow a path in two parts is to follow its first part and then its second one.
* To search several paths is to search the first ones, with what the others come to as default. -/
theorem findWhere_laws {ps qs : List Value} (hps : ∀ path ∈ ps ++ qs, IsPath path)
    {p q r : Value} (hp : IsPath p) (hq : IsPath q) (hr : r.parts = p.parts ++ q.parts)
    (v : Value) (accepts : Value → Bool) (expected : Option Kind) (default : Value) :
    (∃ w, v.findWhere ps accepts default = .ok w ∧ Comes v accepts default ps w) ∧
      v.findAny ps expected default = .ok (v.find (ps.map keysOf) expected default) ∧
      (∃ w, v.findAny [p] none null = .ok w ∧
        v.findAny [r] none null = w.findAny [q] none null) ∧
      ∃ w, v.findWhere qs accepts default = .ok w ∧
        v.findWhere (ps ++ qs) accepts default = v.findWhere ps accepts w := by
  have hfirst : ∀ path ∈ ps, IsPath path := fun path h => hps path (List.mem_append_left _ h)
  have hlast : ∀ path ∈ qs, IsPath path := fun path h => hps path (List.mem_append_right _ h)
  refine ⟨⟨_, findWhere_eq v hfirst accepts default, comes_findSome? v ps accepts default⟩,
    findAny_eq v hfirst expected default, findAny_parts v hp hq hr,
    ⟨_, findWhere_eq v hlast accepts default, ?_⟩⟩
  rw [findWhere_eq v hps, findWhere_eq v hfirst, List.findSome?_append, Option.getD_or]

/-- A path leads from the end of a list to an empty object, which counts as nothing, and leads no
further from there. Another one leads to a text, which is the default for those before it. -/
theorem findWhere_laws_of_empty :
    let v : Value := .list [.object [("a", .object [])], .object [("b", .list [.int 7, .str "x"])]]
    let p : Value := .tuple [.int (-2), .null, .str "a"]
    let q : Value := .tuple [.null]
    let missing : Value := .list [.int 2, .str "b"]
    let found : Value := .list [.int 1, .str "b", .int (-1)]
    (∀ path ∈ [missing, p] ++ [found], IsPath path) ∧
      v.descend p.keysOf = .object [] ∧ v.findAny [p] none null = .ok null ∧
      v.findAny [.tuple (p.parts ++ q.parts)] none null = .ok null ∧
      v.findAny [missing, p] (some .str) (.int 0) = .ok (.int 0) ∧
      v.findAny [missing, p, found] (some .str) (.int 0) = .ok (.str "x") := by
  intro v p q missing found
  have hpaths : ∀ path ∈ [missing, p] ++ [found], IsPath path := by
    simp [missing, p, found, IsPath, parts, key?]
  have hp : IsPath p := hpaths p (by simp)
  have hq : IsPath q := by simp [q, IsPath, parts, key?]
  obtain ⟨-, -, ⟨u, hu, hparts⟩, w, hw, happend⟩ := findWhere_laws hpaths hp hq rfl v
    (·.isOfKind (some .str)) (some .str) (.int 0) (r := .tuple (p.parts ++ q.parts))
  obtain rfl : null = u := Except.ok.inj hu
  obtain rfl : str "x" = w := Except.ok.inj hw
  exact ⟨hpaths, rfl, hu, hparts, rfl, happend⟩

end PlayerPage.Value
