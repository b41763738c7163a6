import PlayerPage.Http.Handler
import PlayerPage.Report

/-!
Sessions: what the work on a page does besides giving a result.

* `Session`: the requests, the responses to them, the addresses that were to be resolved, and
  the reports, in the order in which they came about.
* `Run`: work that changes the session and gives a result or a failure.
* `Run.tell`, `Run.send`, `Run.read`, `Run.close`: the steps that change the session.
-/

namespace PlayerPage

open Http

/-- What the work on a page has done so far. -/
structure Session where
  /-- The requests that were sent. -/
  requests : List Request := []
  /-- The responses that came, as they are now. -/
  responses : List Response := []
  /-- The addresses that were to be resolved, each after the address of the player's script. -/
  lookups : List (Value × Value) := []
  /-- What the logger recorded. -/
  journal : List Report := []
  /-- What was written to the console. -/
  console : String := ""
  deriving Inhabited

/-- The session in which the response with a number is closed. -/
def Session.closeResponse (session : Session) (index : Nat) : Session :=
  { session with responses := session.responses.modify index Response.close }

/-- Work that changes the session and gives a result or a failure. A failure takes back nothing
of what was done before it. -/
abbrev Run := ExceptT Failure (StateM Session)

namespace Run

/-- The outcome of a step on values. -/
def ofFault {α : Type} : Except Fault α → Run α
  | .ok a => pure a
  | .error f => throw (.fault f)

/-- The outcome of a step that can fail in any way. -/
def ofExcept {α : Type} : Except Failure α → Run α
  | .ok a => pure a
  | .error f => throw f

/-- Hand on a report as the settings say. -/
def tell (settings : Settings) (report : Report) : Run Unit :=
  match settings.deliver report with
  | .nowhere => pure ()
  | .console text => modify fun s => { s with console := s.console ++ text }
  | .journal report => modify fun s => { s with journal := s.journal ++ [report] }
  | .failed f => throw (.fault f)

/-- Send a request. The result is the response that came, after the number of those before it; a
response that is refused becomes an error which leaves it open. -/
def send (handler : Handler) (request : Request) : Run (Nat × Response) := do
  let session ← get
  set { session with requests := session.requests ++ [request] }
  match handler.respond session.requests.length request with
  | .failure f => throw f.sentBySelf
  | .response response refused => do
    let index := session.responses.length
    modify fun s => { s with responses := s.responses ++ [response] }
    if refused then throw (Failure.http response.status response.reason index .self)
    else pure (index, response)

/-- Read some bytes of a response, which has this number. -/
def read (index : Nat) (response : Response) (count : Value) : Run (List UInt8) := do
  let (outcome, response) := response.read count
  modify fun s => { s with responses := s.responses.set index response }
  ofExcept outcome

/-- Close the response with a number. -/
def close (index : Nat) : Run Unit :=
  modify (·.closeResponse index)

/-- Close the response with a number once some work is done, however it ends. -/
def closing {α : Type} (index : Nat) (work : Run α) : Run α := fun session =>
  let (outcome, session) := work session
  (outcome, session.closeResponse index)

end Run

end PlayerPage
