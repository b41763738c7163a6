import PlayerPage.Fault
import PlayerPage.Text.Search
import PlayerPage.Value.Number

/-!
Values as series of others, and the length of values.

* `Value.isSeries`: whether a value is a series: a list or a tuple, unless other kinds are wanted.
* `Value.toSeries`: a series as it is, any other value as the only item of one.
* `Value.shorten`: a text that is longer than a limit, cut and followed by three points.
* `Value.between`: the text between two marks.
-/

namespace PlayerPage.Value

/-- The kinds that a list of names stands for. -/
def kinds : Value → Except Fault (List Kind)
  | .list names => .ok (names.filterMap fun name => name.str?.bind Kind.ofName?)
  | _ => .error .notAType

/-- The kinds of values that have items. -/
def Kind.withItems : List Kind :=
  [.str, .bytes, .list, .tuple, .object]

/-- The kinds with items that are no series: texts, bytes and objects. -/
def Kind.wholes : List Kind :=
  [.str, .bytes, .object]

/-- Whether the kind of a value belongs to one of the kinds. -/
def isOfKinds (v : Value) (kinds : List Kind) : Bool :=
  kinds.any v.kind.belongsTo

/-- Whether a value is of an allowed kind and of no blocked one. Without other wishes the kinds
with items are allowed and the wholes among them blocked. -/
def isSeries (v : Value) (allowed blocked : Option Value) : Except Fault Bool := do
  let allowed ← (allowed.map kinds).getD (.ok Kind.withItems)
  if v.isOfKinds allowed then
    let blocked ← (blocked.map kinds).getD (.ok Kind.wholes)
    pure (!v.isOfKinds blocked)
  else pure false

/-- A series as it is, and any other value as the only item of a tuple. -/
def toSeries (v : Value) (blocked : Option Value) : Except Fault Value := do
  if ← v.isSeries none blocked then pure v else pure (.tuple [v])

/-- The length of a value that has one. -/
def length? : Value → Option Nat
  | .str s => some s.length
  | .bytes b => some b.length
  | .list xs | .tuple xs => some xs.length
  | .object ms => some ms.length
  | _ => none

/-- Whether the natural number is greater than a number. -/
def exceeds (n : Nat) : Number → Bool
  | .int m => m < n
  | .float x => x < n.toFloat

/-- What comes out for a value that is too long: only of a text can a part be followed by points. -/
def cutShort (v : Value) (limit : Number) : Except Fault Value :=
  match v, limit with
  | .object _, _ => .error (.unhashable "slice")
  | _, .float _ => .error .badCutIndex
  | .str s, .int n => .ok (.str (String.ofList (Text.shorten n s.toList)))
  | .bytes _, _ => .error (.joinBytes Kind.str.name)
  | .tuple _, _ => .error (.joinTuple Kind.str.name)
  | _, _ => .error (.joinList Kind.str.name)

/-- A text that is longer than the limit, cut and followed by three points; any other value that
is no longer than the limit as it is. -/
def shorten (v limit : Value) : Except Fault Value :=
  if v.isNull then .ok v
  else
    match v.length? with
    | none => .error (.noLength v.kindName)
    | some length =>
      match Number.ofValue? limit with
      | none => .error (.notOrdered Kind.int.name limit.kindName)
      | some limit => if exceeds length limit then v.cutShort limit else .ok v

/-- The text between the first occurrence of one mark and the next one of another; null without
both, and for a value that is no text. -/
def between (v opening closing : Value) : Except Fault Value :=
  match v, opening, closing with
  | .str s, .str opening, .str closing =>
    .ok <| .ofOption <|
      (Text.between? opening.toList closing.toList s.toList).map String.ofList
  | .str s, .str opening, closing =>
    match Text.cutAt? opening.toList s.toList with
    | none => .ok .null
    | some _ => .error (.searchText closing.kindName)
  | .str _, opening, _ => .error (.searchText opening.kindName)
  | _, _, _ => .ok .null

end PlayerPage.Value
