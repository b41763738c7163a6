import PlayerPage.Extractor.Document
import PlayerPage.Proofs.Run

/-!
What comes of the download of a document.

* `Extractor.verdict`: what the reply to the one request of a download comes to.
  `Http.Reply.settle`: the responses once a download is done with the reply.
* `Extractor.downloadXml_eq`, `Extractor.exchange_apply`: a download announces itself, sends its
  request, comes to the verdict and settles the reply.
-/

namespace PlayerPage

open Http

/-! ### Verdicts -/

/-- The error about a request that was answered with a failure. -/
def Extractor.declined (e : Extractor) (videoId note : Value) (f : Failure) : Failure :=
  match f with
  | .http status _ _ _ => e.statusFailure videoId note status (.failure f)
  | f => e.requestFailure videoId note f

/-- What a response that was handed back comes to. -/
def Extractor.judge (e : Extractor) (videoId note : Value) (r : Response) :
    Except Failure Xml.Element :=
  if r.closed then .error (.fault .closed)
  else if r.status.equal (.int 200) then
    match (r.read .null).1 with
    | .ok bytes => e.parseXml (.bytes bytes) videoId xmlNote
    | .error f => .error (e.requestFailure videoId note f)
  else .error (e.statusFailure videoId note r.status (.value .null))

/-- What the reply to the request for a document comes to, when `index` responses came before. -/
def Extractor.verdict (e : Extractor) (videoId note : Value) (index : Nat) :
    Reply → Except Failure Xml.Element
  | .failure f => .error (e.declined videoId note f.sentBySelf)
  | .response r true =>
    .error (e.declined videoId note (.http r.status r.reason index .self))
  | .response r false => e.judge videoId note r

/-- A response once a download is done with it: read if its status told of success, and closed. -/
def Http.Response.spend (r : Response) : Response :=
  if r.closed = false ∧ r.status.equal (.int 200) then (r.read .null).2.close else r.close

/-- The responses once a download is done with the reply to its request. -/
def Http.Reply.settle (responses : List Response) : Reply → List Response
  | .failure (.http _ _ index _) => responses.modify index Response.close
  | .failure _ => responses
  | .response r true => responses ++ [r.close]
  | .response r false => responses ++ [r.spend]

/-- What a download says before it sends its request. -/
def Extractor.announce (e : Extractor) (videoId announcement : Value) : Run Unit :=
  if announcement.holds then e.tell videoId ⟨.debug, announcement⟩ else pure ()

/-! ### The steps of an exchange -/

lemma modify_length_append {α : Type} (l : List α) (a : α) (f : α → α) :
    (l ++ [a]).modify l.length f = l ++ [f a] := by
  induction l with
  | nil => rfl
  | cons b l ih => simpa using ih

namespace Run

lemma send_apply (handler : Handler) (request : Request) (s : Session) :
    send handler request s =
      match handler.respond s.requests.length request with
      | .failure f => (.error f.sentBySelf, { s with requests := s.requests ++ [request] })
      | .response r true =>
        (.error (.http r.status r.reason s.responses.length .self),
          { s with requests := s.requests ++ [request], responses := s.responses ++ [r] })
      | .response r false =>
        (.ok (s.responses.length, r),
          { s with requests := s.requests ++ [request], responses := s.responses ++ [r] }) := by
  have hget : (get : Run Session) s = (.ok s, s) := rfl
  have hset : (set { s with requests := s.requests ++ [request] } : Run PUnit) s =
      (.ok ⟨⟩, { s with requests := s.requests ++ [request] }) := rfl
  rw [send, bind_of_ok hget, bind_of_ok hset]
  rcases handler.respond s.requests.length request with ⟨r, _ | _⟩ | f <;> rfl

lemma read_apply (index : Nat) (r : Response) (count : Value) (s : Session) :
    read index r count s =
      ((r.read count).1, { s with responses := s.responses.set index (r.read count).2 }) := by
  show ofExcept (r.read count).1 { s with responses := s.responses.set index (r.read count).2 } = _
  rw [ofExcept_apply]

lemma closing_apply {α : Type} (index : Nat) (work : Run α) (s : Session) :
    closing index work s = ((work s).1, (work s).2.closeResponse index) := rfl

end Run

namespace Extractor

variable (e : Extractor) (videoId note : Value)

lemma bytesOf_apply (index : Nat) (r : Response) (s : Session) :
    e.bytesOf (index, r) videoId note s =
      if r.status.equal (.int 200) then
        ((r.read .null).1.mapError (e.requestFailure videoId note),
          { s with responses := s.responses.set index (r.read .null).2 })
      else (.error (e.statusFailure videoId note r.status (.value .null)), s) := by
  rw [bytesOf]
  by_cases h : r.status.equal (.int 200)
  · simp only [h, Bool.not_true, Bool.false_eq_true, if_false, if_true]
    show (tryCatch (Run.read index r .null) _) s = _
    rw [Run.tryCatch_apply, Run.read_apply]
    rcases (r.read .null).1 with f | bytes <;> rfl
  · simp only [h, Bool.not_false, Bool.false_eq_true, if_false, if_true]
    rfl

lemma announce_local (announcement : Value) : Run.Local (e.announce videoId announcement) := by
  rw [announce]
  split_ifs
  · exact Run.tell_local _ _
  · exact .pure ()

lemma announce_ok {e : Extractor} (he : e.reporting.Working) (announcement : Value)
    (s : Session) : (e.announce videoId announcement s).1 = .ok () := by
  rw [announce]
  split_ifs
  · exact tell_ok videoId he _ s
  · rfl

lemma fetch_apply (handler : Handler) (request : Request) (s : Session) :
    e.fetch handler request videoId note s =
      match handler.respond s.requests.length request with
      | .failure f =>
        (.error (e.declined videoId note f.sentBySelf),
          { s with
            requests := s.requests ++ [request]
            responses := (Reply.failure f).settle s.responses })
      | .response r true =>
        (.error (e.declined videoId note (.http r.status r.reason s.responses.length .self)),
          { s with
            requests := s.requests ++ [request]
            responses := s.responses ++ [r.close] })
      | .response r false =>
        (.ok (s.responses.length, r),
          { s with requests := s.requests ++ [request], responses := s.responses ++ [r] }) := by
  rw [fetch, Run.tryCatch_apply, Run.send_apply]
  rcases handler.respond s.requests.length request with ⟨r, _ | _⟩ | f
  · rfl
  · show (_, Session.closeResponse _ _) = _
    rw [Session.closeResponse, modify_length_append]
    rfl
  · rcases f with _ | _ | _ | ⟨_, _, _, _ | _ | _⟩ | ⟨_, _, _, _ | _ | _⟩ <;> rfl

/-- What is done with the response that has this number. -/
def examine (index : Nat) (r : Response) : Run Xml.Element := do
  Run.ofFault r.enter
  let bytes ← Run.closing index (e.bytesOf (index, r) videoId note)
  Run.ofExcept (e.parseXml (.bytes bytes) videoId xmlNote)

/-- The last response is judged and then spent. -/
lemma examine_apply (r : Response) (s : Session) (l : List Response)
    (hs : s.responses = l ++ [r]) :
    e.examine videoId note l.length r s =
      (e.judge videoId note r, { s with responses := l ++ [r.spend] }) := by
  obtain ⟨requests, _, lookups, journal, console⟩ := s
  obtain rfl : _ = l ++ [r] := hs
  rw [examine, Response.enter, judge, Response.spend]
  cases hc : r.closed with
  | true =>
    -- a closed response is not entered, and closing it again changes nothing
    have hr : r.close = r := by rw [Response.close, ← hc]
    simp [Run.bind_apply, hr]
  | false =>
    have hin : Run.ofFault (if false = true then .error .closed else .ok ())
        ⟨requests, l ++ [r], lookups, journal, console⟩ =
          (.ok (), ⟨requests, l ++ [r], lookups, journal, console⟩) := rfl
    rw [Run.bind_of_ok hin, Run.bind_apply, Run.closing_apply, bytesOf_apply]
    by_cases h : r.status.equal (.int 200)
    · have hset : (l ++ [r]).set l.length (r.read .null).2 = l ++ [(r.read .null).2] := by simp
      simp only [h, if_true, hset, Session.closeResponse, modify_length_append, and_self]
      rcases (r.read .null).1 with f | bytes
      · rfl
      · exact Run.ofExcept_apply _ _
    · simp only [h, Bool.false_eq_true, if_false, and_false, Session.closeResponse,
        modify_length_append]

/-- A download after its announcement. -/
def exchange (handler : Handler) (request : Request) : Run Xml.Element := do
  let (index, r) ← e.fetch handler request videoId note
  e.examine videoId note index r

/-- A download after its announcement, if there is a handler and the address is one. -/
def obtain (handler : Option Handler) (url : Value) : Run Xml.Element :=
  match handler with
  | none => throw (.fault (.noAttribute Value.Kind.null.name "send"))
  | some handler => do
    let request ← Run.ofFault (Request.make url .null .null)
    e.exchange videoId note handler request

lemma downloadXml_eq (handler : Option Handler) (url announcement : Value) :
    e.downloadXml handler url videoId announcement note =
      e.announce videoId announcement >>= fun _ => e.obtain videoId note handler url := by
  rw [announce]
  cases handler <;> rw [downloadXml] <;> split_ifs <;> rfl

lemma obtain_some (handler : Handler) (url : String) :
    e.obtain videoId note (some handler) (.str url) = e.exchange videoId note handler (.get url) :=
  rfl

/-- A download sends its one request, comes to the verdict on the reply and settles it. -/
lemma exchange_apply (handler : Handler) (request : Request) (s : Session) :
    e.exchange videoId note handler request s =
      (e.verdict videoId note s.responses.length (handler.respond s.requests.length request),
        { s with
          requests := s.requests ++ [request]
          responses := (handler.respond s.requests.length request).settle s.responses }) := by
  rw [exchange, Run.bind_apply, fetch_apply]
  rcases handler.respond s.requests.length request with ⟨r, _ | _⟩ | f
  · exact e.examine_apply videoId note r _ s.responses rfl
  · rfl
  · rfl

end Extractor

end PlayerPage
