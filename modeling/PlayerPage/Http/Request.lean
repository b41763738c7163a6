import PlayerPage.Fault
import PlayerPage.Text.Case

/-!
HTTP requests.

* `Http.entries`: the entries of an object, or of a list of pairs.
* `Request`, `Request.make`: an address, headers and a method, which is `GET` unless given.
-/

namespace PlayerPage.Http

/-! ### Entries -/

/-- The name that a key of an entry stands for. -/
def entryName (key : Value) : Except Fault String :=
  match key with
  | .str s => .ok s
  | .list _ => .error (.unhashable Value.Kind.list.name)
  | .object _ => .error (.unhashable Value.Kind.object.name)
  | key => .ok key.display

/-- The two values of the pair at position `index` of a list. -/
def pairAt (index : Nat) (v : Value) : Except Fault (Value × Value) :=
  let items : Option (List Value) :=
    match v with
    | .list xs | .tuple xs => some xs
    | .str s => some (s.toList.map fun c => .str (String.singleton c))
    | .bytes b => some (b.map fun x => .int x.toNat)
    | .object ms => some (ms.map fun (k, _) => .str k)
    | _ => none
  match items with
  | none => .error (.pairKind index)
  | some [key, value] => .ok (key, value)
  | some items => .error (.pairLength index items.length)

/-- The entries that a list of pairs adds to others, its first pair being at position `index`. -/
def entriesOfPairs (index : Nat) (entries : Members) : List Value → Except Fault Members
  | [] => .ok entries
  | v :: rest => do
    let (key, value) ← pairAt index v
    let name ← entryName key
    entriesOfPairs (index + 1) (entries.put name value) rest

/-- The entries of an object, or of a list of pairs; of nothing there are none. -/
def entries (v : Value) : Except Fault Members :=
  if !v.holds then .ok []
  else
    match v with
    | .object ms => .ok ms
    | .list xs | .tuple xs => entriesOfPairs 0 [] xs
    | .str s => entriesOfPairs 0 [] (s.toList.map fun c => .str (String.singleton c))
    | .bytes b => entriesOfPairs 0 [] (b.map fun x => .int x.toNat)
    | v => .error (.notIterable v.kindName)

/-! ### Requests -/

/-- A request for what is at an address. -/
structure Request where
  url : String
  headers : Members
  method : String

namespace Request

/-- The name of a method in upper case; `GET` in place of nothing. -/
def methodName (v : Value) : Except Fault String :=
  match v.orElse (.str "GET") with
  | .str s => .ok (String.ofList (Text.toUpper s.toList))
  | v => .error (.noAttribute v.kindName "upper")

/-- The request for an address, with headers and a method of the caller's choice. -/
def make (url headers method : Value) : Except Fault Request :=
  match url with
  | .str url => do
    let headers ← entries headers
    let method ← methodName method
    pure ⟨url, headers, method⟩
  | _ => .error .urlText

/-- The request to get what is at an address. -/
def get (url : String) : Request :=
  ⟨url, [], "GET"⟩

/-- The text that shows a request. -/
def literal (r : Request) : String :=
  "<Request " ++ r.method ++ " " ++ r.url ++ ">"

end Request

end PlayerPage.Http
