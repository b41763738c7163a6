import PlayerPage.Fault
import PlayerPage.Value.Equal

/-!
Records: values of fixed fields that never change, as a caller makes them by name.

* `Layout`: the name of a kind of records, its fields, and what else can be asked of them.
* `Layout.make`: the record with the given fields; a field that has a default may be missing.
* `Record.get`, `Record.literal`, `Record.equal`: what a record holds, the text that shows it, and
  equality.
* `Record.refuseAssign`, `Record.refuseDelete`: no field can be changed.
-/

namespace PlayerPage

/-- A kind of records. -/
structure Layout where
  name : String
  /-- The fields, in order, some with a default. -/
  fields : List (String × Option Value)
  /-- What follows from the fields, by name. -/
  derived : List (String × (Members → Except Fault Value))

/-- A record: values for the fields of a layout, in its order. -/
structure Record where
  layout : Layout
  values : Members

namespace Layout

/-- The name under which a layout makes records, in messages. -/
def maker (layout : Layout) : String :=
  layout.name ++ ".__init__()"

/-- The fields that neither are given nor have a default. -/
def missing (layout : Layout) (given : Members) : List String :=
  layout.fields.filterMap fun (name, default) =>
    if default.isSome || (Members.get? given name).isSome then none else some name

/-- The value of a field: the given one, or the default. -/
def valueOf (given : Members) (field : String × Option Value) : String × Value :=
  (field.1, ((Members.get? given field.1).or field.2).getD .null)

/-- The record with the given fields. -/
def make (layout : Layout) (given : Members) : Except Fault Record :=
  match given.find? fun (name, _) => (layout.fields.lookup name).isNone with
  | some (name, _) => .error (.unexpectedArgument layout.maker name)
  | none =>
    match layout.missing given with
    | [] => .ok ⟨layout, layout.fields.map (valueOf given)⟩
    | names => .error (.missingArguments layout.maker names)

end Layout

namespace Record

/-- The name that a value is, of something to be asked of a record. -/
def nameOf (name : Value) : Except Fault String :=
  match name with
  | .str s => .ok s
  | v => .error (.attributeName v.kindName)

/-- What a record holds under a name, or what follows from its fields. -/
def get (r : Record) (name : Value) : Except Fault Value := do
  let name ← nameOf name
  match Members.get? r.values name with
  | some v => pure v
  | none =>
    match r.layout.derived.lookup name with
    | some rule => rule r.values
    | none => throw (.noAttribute r.layout.name name)

/-- The text that shows a record: its kind and its fields by name. -/
def literal (r : Record) : String :=
  r.layout.name ++ "(" ++
    String.ofList (Value.commas (r.values.map fun (name, v) =>
      name.toList ++ '=' :: v.literalChars)) ++ ")"

/-- Whether two records of one layout hold equal values. -/
def equal (r s : Record) : Bool :=
  Value.equalItems (r.values.map Prod.snd) (s.values.map Prod.snd)

/-- No field can be assigned to. -/
def refuseAssign (name : Value) : Fault :=
  match nameOf name with
  | .ok name => .frozenAssign name
  | .error f => f

/-- No field can be deleted. -/
def refuseDelete (name : Value) : Fault :=
  match nameOf name with
  | .ok name => .frozenDelete name
  | .error f => f

end Record

end PlayerPage
