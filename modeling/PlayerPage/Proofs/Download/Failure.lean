import PlayerPage.Proofs.Download.Verdict
import PlayerPage.Proofs.Encodings
import PlayerPage.Proofs.Http.Steps

/-!
How downloads fail.

* `Extractor.downloadXml_fst`, `Extractor.downloadXml_verdict`: with working settings a download
  comes to the verdict on the reply to its request.
* `Extractor.judge_eq_ok_iff`: which responses give a tree.
* `Extractor.judge_error`, `Extractor.declined_isRequest`: no error of a request, and no system
  fault of a body, is left as it is.
* `Extractor.downloadXml_classes`: the classes of all replies.
-/

namespace PlayerPage

open Http

/-! ### Statuses and bodies -/

/-- An integer status tells of success exactly if it is 200. -/
lemma Value.equal_int_iff (m n : Int) : (Value.int m).equal (.int n) = true ↔ m = n := by
  simp [Value.equal, Value.equalNumber, Number.ofValue?, Number.equal]

/-- Whether a failure is a fault of failed input or output. -/
def Failure.isSystem : Failure → Bool
  | .fault f => f.isSystem
  | _ => false

/-- Reading a body never fails by a system fault: that has been wrapped. -/
lemma Http.Response.read_not_isSystem {r : Response} {f : Failure}
    (h : (r.read .null).1 = .error f) : f.isSystem = false := by
  cases hr : r.readFault with
  | some g =>
    obtain rfl : Response.wrapReadFault g = f := by
      rw [read_of_readFault hr] at h
      exact Except.error.inj h
    cases g with
    | fault g =>
      rw [Response.wrapReadFault]
      split_ifs with hg
      · rfl
      · simpa [Failure.isSystem] using hg
    | track | extraction | request | http => rfl
  | none =>
    cases hc : r.closed with
    | false => rw [read_of_readable hr hc] at h; cases h
    | true =>
      simp only [Response.read, hr, hc, Response.readCount, if_true] at h
      cases h
      rfl

namespace Extractor

variable {e : Extractor} {videoId note : Value}

/-! ### Responses that were handed back -/

lemma judge_of_success {r : Response} (hc : r.closed = false) (hs : r.status.equal (.int 200)) :
    e.judge videoId note r = match (r.read .null).1 with
      | .ok bytes => e.parseXml (.bytes bytes) videoId xmlNote
      | .error f => .error (e.requestFailure videoId note f) := by
  rw [judge, hc, if_neg (by simp)]
  exact if_pos hs

lemma judge_of_status {r : Response} (hc : r.closed = false)
    (hs : r.status.equal (.int 200) = false) :
    e.judge videoId note r = .error (e.statusFailure videoId note r.status (.value .null)) := by
  rw [judge, hc, if_neg (by simp), hs, if_neg (by simp)]

/-- Only an open response that tells of success, with a body that is read and is a document, gives
a tree. -/
lemma judge_eq_ok_iff {r : Response} {tree : Xml.Element} :
    e.judge videoId note r = .ok tree ↔
      r.closed = false ∧ r.status.equal (.int 200) ∧ ∃ bytes, (r.read .null).1 = .ok bytes ∧
        e.parseXml (.bytes bytes) videoId xmlNote = .ok tree := by
  cases hc : r.closed with
  | true => simp [judge, hc]
  | false =>
    cases hs : r.status.equal (.int 200) with
    | false => simp [judge_of_status hc hs]
    | true =>
      rw [judge_of_success hc hs]
      cases (r.read .null).1 <;> simp

/-! ### Failures that are wrapped -/

lemma requestFailure_of_isRequest {f : Failure} (h : f.isRequest = true) :
    e.requestFailure videoId note f =
      .download note.display .null (.failure f) videoId e.nameValue := by
  rw [requestFailure, if_pos h]

/-- A failure that is no error of a request stays as it is. -/
lemma requestFailure_of_not {f : Failure} (h : f.isRequest = false) :
    e.requestFailure videoId note f = f := by
  rw [requestFailure, h, if_neg (by simp)]

/-- No error of a request is left. -/
lemma requestFailure_isRequest (f : Failure) :
    (e.requestFailure videoId note f).isRequest = false := by
  cases h : f.isRequest with
  | true => rw [requestFailure_of_isRequest h]; rfl
  | false => rw [requestFailure_of_not h, h]

lemma declined_of_isRequest {f : Failure} (h : f.isRequest = true)
    (hf : ∀ status reason index sender, f ≠ .http status reason index sender) :
    e.declined videoId note f =
      .download note.display .null (.failure f) videoId e.nameValue := by
  cases f with
  | http status reason index sender => exact absurd rfl (hf status reason index sender)
  | request => exact requestFailure_of_isRequest h
  | fault | track | extraction => cases h

/-- No error of a request is left of one that was declined. -/
lemma declined_isRequest (f : Failure) : (e.declined videoId note f).isRequest = false := by
  cases f with
  | http => rfl
  | fault | track | extraction | request => exact requestFailure_isRequest _

/-! ### Documents -/

lemma parseXml_bytes (bytes : List UInt8) :
    e.parseXml (.bytes bytes) videoId note = match Xml.read (.bytes bytes) with
      | .ok tree => .ok tree
      | .error f => .error (if f.kind == .xml then e.misread videoId note f else .fault f) := rfl

/-- Bytes that are no document give an error of the extraction about this, or the fault of the
encoding that they declare. -/
lemma parseXml_bytes_error {bytes : List UInt8} {f : Failure}
    (h : e.parseXml (.bytes bytes) videoId note = .error f) :
    (∃ g, f = e.misread videoId note g) ∨
      ∃ g, f = .fault g ∧ Xml.read (.bytes bytes) = .error g ∧ g.kind ≠ .xml := by
  rw [parseXml_bytes] at h
  cases hr : Xml.read (.bytes bytes) with
  | ok tree => rw [hr] at h; cases h
  | error g =>
    rw [hr] at h
    obtain rfl : _ = f := Except.error.inj h
    by_cases hg : g.kind = .xml
    · exact .inl ⟨g, by simp [hg]⟩
    · exact .inr ⟨g, by simp [hg], rfl, hg⟩

/-- What is said about bytes that are no document is no system fault, no error of a request and
none of a download. -/
lemma parseXml_bytes_error_class {bytes : List UInt8} {f : Failure}
    (h : e.parseXml (.bytes bytes) videoId note = .error f) :
    f.isSystem = false ∧ f.isRequest = false ∧ ∀ status severity text cause videoId ie,
      f ≠ .extraction (.download status) severity text cause videoId ie := by
  rcases parseXml_bytes_error h with ⟨g, rfl⟩ | ⟨g, rfl, hr, hk⟩
  · exact ⟨rfl, rfl, fun _ _ _ _ _ _ h => by cases h⟩
  · refine ⟨?_, rfl, fun _ _ _ _ _ _ h => by cases h⟩
    obtain ⟨encoding, name, -, hn⟩ := (Xml.read_bytes_error_iff bytes g).mp ⟨hr, hk⟩
    rw [Failure.isSystem, Fault.isSystem]
    rcases Xml.Encoding.ofName_error_kind hn with h | h | h | h <;> rw [h] <;> rfl

/-- Nothing that is made of a response that was handed back is an error of a request or a system
fault. -/
lemma judge_error {r : Response} {f : Failure} (h : e.judge videoId note r = .error f) :
    f.isRequest = false ∧ f.isSystem = false := by
  cases hc : r.closed with
  | true =>
    rw [judge, if_pos hc] at h
    cases h
    exact ⟨rfl, rfl⟩
  | false =>
    cases hs : r.status.equal (.int 200) with
    | false =>
      rw [judge_of_status hc hs] at h
      cases h
      exact ⟨rfl, rfl⟩
    | true =>
      rw [judge_of_success hc hs] at h
      cases hr : (r.read .null).1 with
      | ok bytes =>
        rw [hr] at h
        obtain ⟨h1, h2, -⟩ := parseXml_bytes_error_class h
        exact ⟨h2, h1⟩
      | error g =>
        rw [hr] at h
        obtain rfl : e.requestFailure videoId note g = f := Except.error.inj h
        refine ⟨requestFailure_isRequest g, ?_⟩
        cases hg : g.isRequest with
        | true => rw [requestFailure_of_isRequest hg]; rfl
        | false => rw [requestFailure_of_not hg]; exact Response.read_not_isSystem hr

/-! ### Downloads -/

/-- With working settings a download comes to the verdict on the reply to its request. -/
lemma downloadXml_fst (he : e.reporting.Working) (handler : Handler) (url : String)
    (announcement : Value) (s : Session) :
    (e.downloadXml (some handler) (.str url) videoId announcement note s).1 =
      e.verdict videoId note s.responses.length
        (handler.respond s.requests.length (.get url)) := by
  have ht := (e.announce_local videoId announcement).traffic s
  rw [downloadXml_eq, Run.bind_of_fst (announce_ok videoId he announcement s), obtain_some,
    exchange_apply, ht.requests, ht.responses]

/-- The verdict on a reply, by what the request comes to. -/
lemma verdict_eq (handler : Handler) (request : Request) (s : Session) :
    e.verdict videoId note s.responses.length (handler.respond s.requests.length request) =
      match (Run.send handler request s).1 with
      | .ok (_, r) => e.judge videoId note r
      | .error f => .error (e.declined videoId note f) := by
  rw [Run.send_apply]
  rcases handler.respond s.requests.length request with ⟨r, _ | _⟩ | f <;> rfl

/-- With working settings a download comes to what is made of the reply to its request, sent as a
request by itself. -/
lemma downloadXml_verdict (he : e.reporting.Working) (handler : Handler) (url : String)
    (announcement : Value) (s : Session) :
    (e.downloadXml (some handler) (.str url) videoId announcement note s).1 =
      match (Run.send handler (.get url) s).1 with
      | .ok (_, r) => e.judge videoId note r
      | .error f => .error (e.declined videoId note f) := by
  rw [downloadXml_fst he, verdict_eq]

/-- **The classes of downloads**, with working settings. A tree comes of a response with status
200 alone, whose body is read and is a document. A response with any other status, raised as an
error or handed back, gives a download error with its status; every other error of a request and
every system fault of the body gives one without a status, with its cause. Bytes that are no
document never give a download error, and no error of a request is left as it is, nor a system
fault of a body. -/
theorem downloadXml_classes (he : e.reporting.Working) (handler : Handler) (url : String)
    (videoId announcement note : Value) (s : Session) :
    let sent := (Run.send handler (.get url) s).1
    let outcome := (e.downloadXml (some handler) (.str url) videoId announcement note s).1
    let download (text : String) (status : Value) (cause : Cause) : Except Failure Xml.Element :=
      .error (.download text status cause videoId e.nameValue)
    (∀ tree, outcome = .ok tree → ∃ index r bytes, sent = .ok (index, r) ∧
        r.status.equal (.int 200) = true ∧ (∀ n, r.status = .int n → n = 200) ∧
        (r.read .null).1 = .ok bytes ∧ e.parseXml (.bytes bytes) videoId xmlNote = .ok tree) ∧
      (∀ status reason index sender, sent = .error (.http status reason index sender) →
        outcome = download (statusNote note status) status
          (.failure (.http status reason index sender))) ∧
      (∀ index r, sent = .ok (index, r) → r.closed = false → r.status.equal (.int 200) = false →
        outcome = download (statusNote note r.status) r.status (.value .null)) ∧
      (∀ f, sent = .error f → f.isRequest = true →
        (∀ status reason index sender, f ≠ .http status reason index sender) →
        outcome = download note.display .null (.failure f)) ∧
      (∀ index r, sent = .ok (index, r) → r.closed = false → r.status.equal (.int 200) = true →
        (∀ f, r.readFault = some f → f.isRequest = true →
            outcome = download note.display .null (.failure f)) ∧
          (∀ f, r.readFault = some (.fault f) → f.isSystem = true →
            outcome = download note.display .null
              (.failure (.requestError true .null (.failure (.fault f)) .unset))) ∧
          ∀ bytes f, (r.read .null).1 = .ok bytes →
            e.parseXml (.bytes bytes) videoId xmlNote = .error f →
            outcome = .error f ∧ ∀ status severity text cause videoId ie,
              f ≠ .extraction (.download status) severity text cause videoId ie) ∧
      ∀ f, outcome = .error f → f.isRequest = false ∧
        ∀ index r, sent = .ok (index, r) → f.isSystem = false := by
  intro sent outcome download
  have hout : outcome = match sent with
      | .ok (_, r) => e.judge videoId note r
      | .error f => .error (e.declined videoId note f) :=
    downloadXml_verdict he handler url announcement s
  have hjudge : ∀ index r, sent = .ok (index, r) → outcome = e.judge videoId note r :=
    fun index r h => by rw [hout, h]
  have hdeclined : ∀ f, sent = .error f → outcome = .error (e.declined videoId note f) :=
    fun f h => by rw [hout, h]
  refine ⟨fun tree h => ?_, fun status reason index sender h => ?_, fun index r h hc hs => ?_,
    fun f h hf hne => ?_, fun index r h hc hs => ?_, fun f h => ?_⟩
  · rcases hsent : sent with f | ⟨index, r⟩
    · rw [hdeclined f hsent] at h
      cases h
    · rw [hjudge index r hsent] at h
      obtain ⟨-, hs, bytes, hb, ht⟩ := judge_eq_ok_iff.mp h
      refine ⟨index, r, bytes, rfl, hs, fun n hn => ?_, hb, ht⟩
      rw [hn] at hs
      exact (Value.equal_int_iff n 200).mp hs
  · exact hdeclined _ h
  · rw [hjudge index r h, judge_of_status hc hs]
    rfl
  · rw [hdeclined f h, declined_of_isRequest hf hne]
  · -- the body fails by an error of a request, by a system fault, or is no document
    refine ⟨fun f hr hf => ?_, fun f hr hf => ?_, fun bytes f hb hp => ⟨?_, ?_⟩⟩
    · have hw : Response.wrapReadFault f = f := by cases f <;> first | rfl | cases hf
      rw [hjudge index r h, judge_of_success hc hs, Response.read_of_readFault hr, hw]
      exact congrArg Except.error (requestFailure_of_isRequest hf)
    · rw [hjudge index r h, judge_of_success hc hs, Response.read_of_readFault hr,
        Response.wrapReadFault, if_pos hf]
      exact congrArg Except.error (requestFailure_of_isRequest rfl)
    · rw [hjudge index r h, judge_of_success hc hs, hb]
      exact hp
    · exact (parseXml_bytes_error_class hp).2.2
  · rcases hsent : sent with g | ⟨index, r⟩
    · obtain rfl : e.declined videoId note g = f := by
        rw [hdeclined g hsent] at h
        exact Except.error.inj h
      exact ⟨declined_isRequest g, fun _ _ h => by cases h⟩
    · rw [hjudge index r hsent] at h
      exact ⟨(judge_error h).1, fun _ _ _ => (judge_error h).2⟩

/-- An answer that was raised, one that was handed back, a body that breaks off, and a document
that is read. -/
theorem downloadXml_classes_of_replies :
    let e : Extractor := .ofSettings (some "youtube") [("logger", .recorder true)]
    let url := "http://x/mpd"
    let reset : Failure := .fault (.system [.int 104, .str "reset"])
    let answering (body : String) (readFault : Option Failure) (status : Int)
        (handBack : Bool) : Handler :=
      .ofScript [Handler.answer (Text.Utf8.encode body.toList) readFault (.object []) (.int status)
        .null handBack]
    let download (handler : Handler) : Except Failure Xml.Element :=
      (e.downloadXml (some handler) (.str url) (.str "abc") .null (.str "Failed") {}).1
    let failed (text : String) (status : Value) (cause : Cause) : Except Failure Xml.Element :=
      .error (.download text status cause (.str "abc") (.str "youtube"))
    e.reporting.Working ∧
      download (answering "" none 404 false) =
        failed "Failed: invalid status code 404" (.int 404)
          (.failure (.http (.int 404) (.str "Not Found") 0 .self)) ∧
      download (answering "" none 204 true) =
        failed "Failed: invalid status code 204" (.int 204) (.value .null) ∧
      download (answering "" (some reset) 200 false) =
        failed "Failed" .null (.failure (.requestError true .null (.failure reset) .unset)) ∧
      download (answering "<MPD/>" none 200 false) = .ok (.mk "MPD" [] []) ∧
      ∃ index r bytes,
        (Run.send (answering "<MPD/>" none 200 false) (.get url) {}).1 = .ok (index, r) ∧
          r.status.equal (.int 200) = true ∧ (r.read .null).1 = .ok bytes := by
  intro e url reset answering download failed
  have he : e.reporting.Working := fun v h => by cases h
  have classes (handler : Handler) :=
    downloadXml_classes he handler url (.str "abc") .null (.str "Failed") {}
  refine ⟨he, ?_, ?_, ?_, rfl, ?_⟩
  · exact (classes (answering "" none 404 false)).2.1 _ _ _ _ rfl
  · exact (classes (answering "" none 204 true)).2.2.1 0 _ rfl rfl rfl
  · obtain ⟨-, -, -, -, hbody, -⟩ := classes (answering "" (some reset) 200 false)
    exact (hbody 0 _ rfl rfl rfl).2.1 _ rfl rfl
  · obtain ⟨index, r, bytes, hsent, hs, -, hb, -⟩ :=
      (classes (answering "<MPD/>" none 200 false)).1 (.mk "MPD" [] []) rfl
    exact ⟨index, r, bytes, hsent, hs, hb⟩

end Extractor

end PlayerPage
