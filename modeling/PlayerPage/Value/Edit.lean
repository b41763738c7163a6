import PlayerPage.Fault
import PlayerPage.Value.Find

/-!
Changes inside nested values.

* `Value.itemOf`: what a value holds at a key, or the fault that it holds nothing there.
* `Value.assign`, `Value.remove`: a value with another one in the place that a path leads to, or
  with that place taken away.
-/

namespace PlayerPage.Value

/-- The position of an index, counted from the end if negative, in a list of some length. -/
def position? (length : Nat) (index : Int) : Option Nat :=
  let position := if index < 0 then index + length else index
  if 0 ≤ position && position < length then some position.toNat else none

/-- The position in a list that a key stands for; `outside` is the fault of one that is not
there. -/
def listPosition (length : Nat) (key : Value) (outside : Fault) : Except Fault Nat :=
  match key.key? with
  | some (.item index) =>
    match position? length index with
    | some i => .ok i
    | none => .error outside
  | _ => .error (.listKey key.kindName)

/-- The name of a member that a key stands for. -/
def memberName (key : Value) : Except Fault String :=
  match key.unhashable? with
  | some kind => .error (.unhashable kind)
  | none => .ok key.display

/-- The value of the member that a key stands for. -/
def memberOf (ms : Members) (key : Value) : Except Fault Value :=
  match key with
  | .str name =>
    match Members.get? ms name with
    | some v => .ok v
    | none => .error (.missingKey key)
  | key =>
    match key.unhashable? with
    | some kind => .error (.unhashable kind)
    | none => .error (.missingKey key)

/-- The character of a text that a key stands for. -/
def characterOf (s : String) (key : Value) : Except Fault Value :=
  match key.key? with
  | some (.item index) =>
    match (position? s.length index).bind fun i => s.toList[i]? with
    | some c => .ok (.str (String.singleton c))
    | none => .error .textIndex
  | _ => .error (.textKey key.kindName)

/-- What a value holds at a key. -/
def itemOf (v key : Value) : Except Fault Value :=
  match v with
  | .object ms => memberOf ms key
  | .list xs => do
    let i ← listPosition xs.length key .listIndex
    pure ((xs[i]?).getD .null)
  | .str s => characterOf s key
  | v => .error (.noSubscript v.kindName)

/-- The value with another one at a key. -/
def assignItem (v key new : Value) : Except Fault Value :=
  match v with
  | .object ms => do pure (.object (Members.put ms (← memberName key) new))
  | .list xs => do
    let i ← listPosition xs.length key .listAssignIndex
    pure (.list (xs.set i new))
  | v => .error (.noAssign v.kindName)

/-- The value without what it holds at a key. -/
def removeItem (v key : Value) : Except Fault Value :=
  match v with
  | .object ms => do
    let _ ← memberOf ms key
    pure (.object (Members.erase ms (← memberName key)))
  | .list xs => do
    let i ← listPosition xs.length key .listAssignIndex
    pure (.list (xs.eraseIdx i))
  | v => .error (.noDelete v.kindName)

/-- The value with `new` in the place that a path leads to. -/
def assign (v : Value) (path : List Value) (new : Value) : Except Fault Value :=
  match path with
  | [] => .ok new
  | [key] => v.assignItem key new
  | key :: rest => do
    let inner ← v.itemOf key
    v.assignItem key (← inner.assign rest new)

/-- The value without the place that a path leads to. -/
def remove (v : Value) (path : List Value) : Except Fault Value :=
  match path with
  | [] => .error .listIndex
  | [key] => v.removeItem key
  | key :: rest => do
    let inner ← v.itemOf key
    v.assignItem key (← inner.remove rest)

end PlayerPage.Value
