import PlayerPage.Value.Number

/-!
Equality of values.

* `Value.equal`: numbers are equal across their kinds, lists and tuples item by item, objects
  whatever the order of their members; values of different kinds are not equal otherwise.
-/

namespace PlayerPage.Value

mutual

/-- Whether two values are equal. -/
def equal : Value → Value → Bool
  | .null, .null => true
  | .str a, .str b => a == b
  | .bytes a, .bytes b => a == b
  | .list xs, .list ys => equalItems xs ys
  | .tuple xs, .tuple ys => equalItems xs ys
  | .object ms, .object ns => ms.length == ns.length && equalMembers ms ns
  | .bool a, v => equalNumber (.int (if a then 1 else 0)) v
  | .int a, v => equalNumber (.int a) v
  | .float a, v => equalNumber (.float a) v
  | _, _ => false

/-- Whether two lists have equal items. -/
def equalItems : List Value → List Value → Bool
  | [], [] => true
  | x :: xs, y :: ys => equal x y && equalItems xs ys
  | _, _ => false

/-- Whether every member of the first object has an equal one in the second. -/
def equalMembers : List (String × Value) → List (String × Value) → Bool
  | [], _ => true
  | (k, v) :: ms, ns =>
    (match ns.lookup k with
      | some w => equal v w
      | none => false) && equalMembers ms ns

/-- Whether a value is the number `a`. -/
def equalNumber (a : Number) (v : Value) : Bool :=
  match Number.ofValue? v with
  | some b => a.equal b
  | none => false

end

/-- Whether a list holds a value equal to `v`. -/
def among (v : Value) (values : List Value) : Bool :=
  values.any (v.equal ·)

end PlayerPage.Value
