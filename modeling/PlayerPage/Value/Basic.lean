/-!
Decoded document values.

* `Value`: what a JSON document or a caller can hold; objects keep their members in order.
* `Value.Kind`: the kinds of values, with the names that messages use.
* `Value.holds`: which values count as a yes in a condition.
* `Members.get?`, `Members.put`: look-up in an object, and its change, where the last value of a
  name wins and the name keeps its first place.
-/

namespace PlayerPage

/-- A decoded value. Numbers are integers of any size or binary floating-point numbers; a tuple
is a list that a caller gave as a fixed row of values. -/
inductive Value where
  | null
  | bool (b : Bool)
  | int (n : Int)
  | float (x : Float)
  | str (s : String)
  | bytes (bytes : List UInt8)
  | list (items : List Value)
  | tuple (items : List Value)
  | object (members : List (String × Value))
  deriving Inhabited

/-- The members of an object, in order. -/
abbrev Members := List (String × Value)

namespace Members

/-- The value of the member `key`. -/
def get? (members : Members) (key : String) : Option Value :=
  members.lookup key

/-- The value of the member `key`, or null without one. -/
def get (members : Members) (key : String) : Value :=
  (get? members key).getD .null

/-- The members with `value` for `key`: in the place of the former value, or at the end. -/
def put : (members : Members) → (key : String) → (value : Value) → Members
  | [], key, value => [(key, value)]
  | (k, v) :: rest, key, value =>
    if k == key then (k, value) :: rest else (k, v) :: put rest key value

/-- The members without `key`. -/
def erase (members : Members) (key : String) : Members :=
  members.filter (·.1 != key)

/-- The members that a sequence of assignments leaves. -/
def ofAssignments (assignments : List (String × Value)) : Members :=
  assignments.foldl (fun ms (k, v) => put ms k v) []

/-- The object of texts that a sequence of assignments leaves. -/
def ofTexts (assignments : List (String × String)) : Members :=
  ofAssignments (assignments.map fun (k, s) => (k, .str s))

theorem get?_cons (k : String) (v : Value) (rest : Members) (key : String) :
    get? ((k, v) :: rest) key = if key == k then some v else get? rest key := by
  cases h : key == k <;> simp [get?, List.lookup_cons, h]

theorem get?_put_self (members : Members) (key : String) (value : Value) :
    (members.put key value).get? key = some value := by
  induction members with
  | nil => simp [put, get?_cons]
  | cons m rest ih =>
    obtain ⟨k, v⟩ := m
    by_cases h : k = key
    · simp [put, get?_cons, h]
    · simp [put, get?_cons, h, Ne.symm h, ih]

theorem get?_put_of_ne (members : Members) {key other : String} (value : Value)
    (h : other ≠ key) : (members.put key value).get? other = members.get? other := by
  induction members with
  | nil => simp [put, get?_cons, h]
  | cons m rest ih =>
    obtain ⟨k, v⟩ := m
    by_cases hk : k = key
    · simp [put, get?_cons, hk, h]
    · simp [put, get?_cons, hk, ih]

end Members

namespace Value

/-- The kinds of values. -/
inductive Kind where
  | null
  | bool
  | int
  | float
  | str
  | bytes
  | list
  | tuple
  | object
  deriving DecidableEq, Repr

/-- The name of a kind in messages. -/
def Kind.name : Kind → String
  | .null => "NoneType"
  | .bool => "bool"
  | .int => "int"
  | .float => "float"
  | .str => "str"
  | .bytes => "bytes"
  | .list => "list"
  | .tuple => "tuple"
  | .object => "dict"

/-- The kind of a name. -/
def Kind.ofName? (name : String) : Option Kind :=
  [Kind.null, .bool, .int, .float, .str, .bytes, .list, .tuple, .object].find? (·.name == name)

/-- The kind of a value. -/
def kind : Value → Kind
  | .null => .null
  | .bool _ => .bool
  | .int _ => .int
  | .float _ => .float
  | .str _ => .str
  | .bytes _ => .bytes
  | .list _ => .list
  | .tuple _ => .tuple
  | .object _ => .object

/-- Whether a value of kind `k` belongs to the kind `expected`: a truth value is an integer too. -/
def Kind.belongsTo (k expected : Kind) : Bool :=
  k == expected || (k == .bool && expected == .int)

/-- The name of the value's kind. -/
def kindName (v : Value) : String :=
  v.kind.name

/-- Which values count as a yes: all but null, false, the numbers zero and the empty ones. -/
def holds : Value → Bool
  | .null => false
  | .bool b => b
  | .int n => n != 0
  | .float x => x != 0
  | .str s => s != ""
  | .bytes b => !b.isEmpty
  | .list xs => !xs.isEmpty
  | .tuple xs => !xs.isEmpty
  | .object ms => !ms.isEmpty

/-- The value, or `other` in place of one that counts as a no. -/
def orElse (v other : Value) : Value :=
  if v.holds then v else other

/-- Whether the value is null. -/
def isNull : Value → Bool
  | .null => true
  | _ => false

/-- The text of a string value. -/
def str? : Value → Option String
  | .str s => some s
  | _ => none

/-- The members of an object value. -/
def members? : Value → Option Members
  | .object ms => some ms
  | _ => none

/-- A string value, or null. -/
def ofOption : Option String → Value
  | some s => .str s
  | none => .null

end Value

end PlayerPage
