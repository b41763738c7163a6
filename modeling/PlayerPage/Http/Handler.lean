import PlayerPage.Http.Request
import PlayerPage.Http.Response

/-!
Handlers: what a caller gives to have requests answered.

* `Reply`: a response that is handed back, a response that is raised as an error, or a failure.
* `Handler`: the reply to each request, given how many requests were sent before it.
* `Handler.ofScript`: a handler that answers from a list, whose last entry goes on for ever.
-/

namespace PlayerPage.Http

/-- What comes of a request. -/
inductive Reply where
  /-- A response; `refused` if it is raised as an error. -/
  | response (response : Response) (refused : Bool)
  | failure (failure : Failure)

/-- The reply to each request, given how many requests were sent before it. -/
structure Handler where
  respond : (sent : Nat) → Request → Reply

namespace Handler

/-- The handler that answers with the entries of a list in turn; the last entry goes on for ever,
and no entry at all is a failure. -/
def ofScript (script : List (Request → Reply)) : Handler where
  respond sent request :=
    match (script[sent]?).or script.getLast? with
    | some entry => entry request
    | none => .failure (.fault .listIndex)

/-- The entry with this body, status, reason and headers for whatever address is asked for. It is
handed back, or raised if its status tells of no success and it is not meant to be handed back. -/
def answer (body : List UInt8) (readFault : Option Failure) (headers status reason : Value)
    (handBack : Bool) (request : Request) : Reply :=
  match Response.make body readFault (.str request.url) headers status reason with
  | .ok response => .response response (!handBack && !Status.isSuccess status)
  | .error f => .failure (.fault f)

end Handler

end PlayerPage.Http
