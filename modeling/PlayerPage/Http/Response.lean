import PlayerPage.Failure
import PlayerPage.Http.Status
import PlayerPage.Text.Case

/-!
HTTP responses: a status, headers, and a body that is read piece by piece.

* `Headers.get?`: the values of a header, whatever the case of its name, joined by commas.
* `Response.make`: a response, with the registered phrase of its status unless a reason is given.
* `Response.read`: some of the bytes that have not been read yet; a system fault below becomes an
  error of the connection.
* `Response.close`, `Response.enter`: a closed response stays closed.
-/

namespace PlayerPage.Http

/-! ### Headers -/

/-- Headers in the order in which they were added. -/
abbrev Headers := List (Value × String)

namespace Headers

/-- A name of a header in lower case; only texts have one. -/
def fold (name : Value) : Except Fault (List Char) :=
  match name with
  | .str s => .ok (Text.toLower s.toList)
  | v => .error (.noAttribute v.kindName "lower")

/-- The text of the value of a header; nothing is an empty one. -/
def valueText (v : Value) : Except Fault String :=
  match v with
  | .null => .ok ""
  | .str s => .ok s
  | v => .error (.joinItem 0 v.kindName)

/-- The headers with one more. -/
def add (headers : Headers) (name value : Value) : Except Fault Headers :=
  (valueText value).map fun s => headers ++ [(name, s)]

/-- The headers of an object, one for each member. -/
def ofMembers (ms : Members) : Except Fault Headers :=
  ms.foldlM (fun headers (name, value) => add headers (.str name) value) []

/-- The values of the headers of a name in lower case, in order. -/
def values (folded : List Char) : Headers → Except Fault (List String)
  | [] => .ok []
  | (name, value) :: rest => do
    let found ← fold name
    let more ← values folded rest
    pure (if found == folded then value :: more else more)

/-- The values of the headers of a name, joined by commas; the default without any. -/
def get (headers : Headers) (name default : Value) : Except Fault Value := do
  let found ← values (← fold name) headers
  pure (if found.isEmpty then default else .str (String.intercalate ", " found))

end Headers

/-! ### Responses -/

/-- A response to a request. -/
structure Response where
  url : Value
  status : Value
  reason : Value
  headers : Headers
  /-- The bytes of the body that have not been read yet. -/
  unread : List UInt8
  /-- What every attempt to read the body brings, if it cannot be read. -/
  readFault : Option Failure
  closed : Bool

namespace Response

/-- A response. Without a reason the registered phrase of its status is taken, if it has one. -/
def make (body : List UInt8) (readFault : Option Failure) (url headers status reason : Value) :
    Except Fault Response :=
  match headers with
  | .object ms => do
    let headers ← Headers.ofMembers ms
    let reason := if reason.isNull then Value.ofOption (Status.phrase? status) else reason
    pure ⟨url, status, reason, headers, body, readFault, false⟩
  | v => .error (.noAttribute v.kindName "items")

/-- What an attempt to read comes to that fails below: a fault of input or output becomes an
error of the connection, with the fault as its cause. -/
def wrapReadFault : Failure → Failure
  | .fault f =>
    if f.isSystem then .requestError true .null (.failure (.fault f)) .unset else .fault f
  | f => f

/-- The greatest number of bytes that can be asked for. -/
def largestCount : Int := 9223372036854775807

/-- The number of bytes to be read of `length`: all of them without a number, or with a negative
one. -/
def readCount (length : Nat) : Value → Except Fault Nat
  | .null => .ok length
  | .int n =>
    if n < -largestCount - 1 || largestCount < n then .error .hugeCount
    else .ok (if n < 0 then length else n.toNat)
  | .bool b => .ok (if b then 1 else 0)
  | v => .error (.readCount v.kindName)

/-- Some bytes of the body, and the response without them. -/
def read (r : Response) (count : Value) : Except Failure (List UInt8) × Response :=
  match r.readFault with
  | some f => (.error (wrapReadFault f), r)
  | none =>
    match readCount r.unread.length count with
    | .error f => (.error (.fault f), r)
    | .ok n =>
      if r.closed then (.error (.fault .closed), r)
      else (.ok (r.unread.take n), { r with unread := r.unread.drop n })

/-- The response, closed. -/
def close (r : Response) : Response :=
  { r with closed := true }

/-- A closed response cannot be entered. -/
def enter (r : Response) : Except Fault Unit :=
  if r.closed then .error .closed else .ok ()

/-- The response with one more header. -/
def addHeader (r : Response) (name value : Value) : Except Fault Response :=
  (r.headers.add name value).map fun headers => { r with headers }

/-- The values of a header, joined by commas. -/
def getHeader (r : Response) (name default : Value) : Except Fault Value :=
  r.headers.get name default

end Response

end PlayerPage.Http
