import PlayerPage.Fault
import PlayerPage.Value.Equal

/-!
Look-ups in nested values.

* `Key`, `Value.child`, `Value.descend`: a path of keys leads from a value to one inside it, or to
  null if a member, an item or a container is missing.
* `Value.find?`: the first of several paths that leads to something, where null and the empty
  object count as nothing, as do values of an unwanted kind.
* `Value.findWhere`, `Value.findAny`, `Value.firstMember`: the same for keys that are values
  themselves, which fail if one of them can be no key of an object.
-/

namespace PlayerPage

/-- One step of a path: to the value itself, to a member of an object, or to an item of a list,
counted from the end if negative. -/
inductive Key where
  | self
  | member (name : String)
  | item (index : Int)
  deriving DecidableEq, Repr

namespace Value

/-- The item at a position, counted from the end if negative. -/
def itemAt (items : List Value) (index : Int) : Value :=
  let position := if index < 0 then index + items.length else index
  if position < 0 then .null else (items[position.toNat]?).getD .null

/-- What a value holds at a key; null if there is nothing there. -/
def child (v : Value) : Key → Value
  | .self => v
  | .member name =>
    match v with
    | .object ms => Members.get ms name
    | _ => .null
  | .item index =>
    match v with
    | .list xs | .tuple xs => itemAt xs index
    | _ => .null

/-- What a path leads to; null as soon as it leads to nothing. -/
def descend (v : Value) : List Key → Value
  | [] => v
  | key :: path =>
    match v.child key with
    | .null => .null
    | w => w.descend path

/-- Null and the empty object count as nothing. -/
def isVoid : Value → Bool
  | .null => true
  | .object ms => ms.isEmpty
  | _ => false

/-- Whether a value is of the expected kind, if one is expected. -/
def isOfKind (v : Value) (expected : Option Kind) : Bool :=
  match expected with
  | none => true
  | some k => v.kind.belongsTo k

/-- What the first of the paths that leads to something leads to. -/
def find? (v : Value) (paths : List (List Key)) (expected : Option Kind) : Option Value :=
  paths.findSome? fun path =>
    let w := v.descend path
    if w.isOfKind expected && !w.isVoid then some w else none

/-- What the first of the paths that leads to something leads to, or else the default. -/
def find (v : Value) (paths : List (List Key)) (expected : Option Kind) (default : Value) :
    Value :=
  (v.find? paths expected).getD default

/-- The member `name` of an object, where the empty object counts as nothing. -/
def member (v : Value) (name : String) : Value :=
  v.find [[.member name]] none .null

/-- The members of the object in the member `name`; none if there is no object there. -/
def objectAt (v : Value) (name : String) : Members :=
  ((v.find? [[.member name]] (some .object)).bind members?).getD []

/-! ### Keys that are values -/

/-- The key that a value stands for: null for the value itself, a string for a member, an integer
or a truth value for an item. -/
def key? : Value → Option Key
  | .null => some .self
  | .str s => some (.member s)
  | .int n => some (.item n)
  | .bool b => some (.item (if b then 1 else 0))
  | _ => none

mutual

/-- The kind of the part of a value that keeps it from being looked up in an object. -/
def unhashable? : Value → Option String
  | .list _ => some Kind.list.name
  | .object _ => some Kind.object.name
  | .tuple xs => unhashableItem? xs
  | _ => none

/-- The kind of the first item part that keeps a tuple from being looked up. -/
def unhashableItem? : List Value → Option String
  | [] => none
  | x :: xs => (unhashable? x).or (unhashableItem? xs)

end

/-- What a value holds at a key that is a value. -/
def childAt (v key : Value) : Except Fault Value :=
  match key.key? with
  | some key => .ok (v.child key)
  | none =>
    match v, key.unhashable? with
    | .object _, some kind => .error (.unhashable kind)
    | _, _ => .ok .null

/-- What a path of values leads to. -/
def descendAny (v : Value) : List Value → Except Fault Value
  | [] => .ok v
  | key :: path => do
    match ← v.childAt key with
    | .null => .ok .null
    | w => w.descendAny path

/-- The values that stand for several: the items of a list or tuple; any other value alone. -/
def parts : Value → List Value
  | .list xs => xs
  | .tuple xs => xs
  | v => [v]

/-- What the first of the paths leads to that leads to something acceptable, or else the default. A
path is one key or a list of keys. -/
def findWhere (v : Value) (paths : List Value) (accepts : Value → Bool) (default : Value) :
    Except Fault Value :=
  match paths with
  | [] => .ok default
  | path :: rest => do
    let w ← v.descendAny path.parts
    if accepts w && !w.isVoid then .ok w else v.findWhere rest accepts default

/-- What the first of the paths leads to that leads to something of the expected kind, if one is
expected, or else the default. -/
def findAny (v : Value) (paths : List Value) (expected : Option Kind) (default : Value) :
    Except Fault Value :=
  v.findWhere paths (·.isOfKind expected) default

/-- The first of the members that is there and, if wanted, counts as a yes; or else the default.
Only objects have members to offer. -/
def firstMember (v : Value) (keys : List Value) (skipFalse : Bool) (default : Value) :
    Except Fault Value :=
  match v with
  | .object ms => search ms keys
  | _ => .error (.noAttribute v.kindName "get")
where
  /-- The search among the keys that are left. -/
  search (ms : Members) : List Value → Except Fault Value
    | [] => .ok default
    | key :: rest => do
      let w ←
        match key with
        | .str name => .ok (Members.get ms name)
        | key =>
          match key.unhashable? with
          | some kind => .error (Fault.unhashable kind)
          | none => .ok .null
      if !w.isNull && (w.holds || !skipFalse) then .ok w else search ms rest

end Value

end PlayerPage
