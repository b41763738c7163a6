import PlayerPage.Proofs.Download.Failure
import PlayerPage.Proofs.Json
import PlayerPage.Proofs.Page.Precedence

/-!
Which faults leave the search for the formats of a page as they are.

* `Http.Handler.KeepsContract`, `Resolver.KeepsContract`: what the collaborators of a page owe.
* `Http.Reply.Misdeclares`: a document came whose declared encoding cannot be used.
* `Extractor.verdict_cases`: a reply without a tree is an error of the extraction, unless it is
  misdeclared.
* `Page.load_cases`: the formats of a field without a manifest are given, or it is an error of the
  extraction; `Page.load_manifest_cases`: for a manifest there is that fault as well.
* `Page.formats_escape`: formats, an error of the extraction, or the fault of the encoding that a
  manifest declares.
-/

namespace PlayerPage

open Http

/-! ### Collaborators -/

/-- The handler answers with open responses, whose bodies can be read or fail by an error of a
request or a system fault, or fails by an error of a request. -/
structure Http.Handler.KeepsContract (handler : Handler) : Prop where
  response : ∀ {sent request r refused}, handler.respond sent request = .response r refused →
    r.closed = false ∧ ∀ f, r.readFault = some f → f.isRequest = true ∨ f.isSystem = true
  failure : ∀ {sent request f}, handler.respond sent request = .failure f → f.isRequest = true

/-- The resolver finds a text for a text, or fails because of the signature. -/
def Resolver.KeepsContract (resolver : Resolver) : Prop :=
  ∀ script (url : String),
    (∃ address, resolver.resolve script (.str url) = .ok (.str address)) ∨
      ∃ severity text cause videoId ie, resolver.resolve script (.str url) =
        .error (.extraction .signature severity text cause videoId ie)

/-- Taking addresses as they are keeps the contract. -/
lemma Resolver.passthrough_keepsContract : passthrough.KeepsContract := by
  intro script url
  by_cases hs : isSigned url.toList
  · refine .inr ⟨.fault, signedText, .value .null, .null, .null, ?_⟩
    show unscrambled (.str url) = _
    rw [unscrambled, if_pos hs]
    rfl
  · refine .inl ⟨url, ?_⟩
    show unscrambled (.str url) = _
    rw [unscrambled, if_neg hs]

/-- Answering with a body and a success keeps the contract. -/
lemma Http.Handler.answer_keepsContract (body : List UInt8) :
    KeepsContract ⟨fun _ => answer body none (.object []) (.int 200) .null false⟩ := by
  have ha (request : Request) : answer body none (.object []) (.int 200) .null false request =
      .response ⟨.str request.url, .int 200, .str "OK", [], body, none, false⟩ false := rfl
  constructor
  · intro sent request r refused h
    cases (ha request).symm.trans h
    exact ⟨rfl, by simp⟩
  · intro sent request f h
    cases (ha request).symm.trans h

/-- The reply tells of success and has a body, but the document there declares an encoding that
brings a fault. -/
def Http.Reply.Misdeclares (reply : Reply) (g : Fault) : Prop :=
  ∃ r encoding name, reply = .response r false ∧ r.status.equal (.int 200) = true ∧
    r.readFault = none ∧ Xml.declared? r.unread = some (encoding, name) ∧
    Xml.Encoding.ofName encoding name = .error g

/-! ### Documents -/

/-- A body that fails by an error of a request or a system fault gives an error of a request. -/
lemma Http.Response.wrapReadFault_isRequest {f : Failure}
    (h : f.isRequest = true ∨ f.isSystem = true) : (wrapReadFault f).isRequest = true := by
  cases f with
  | fault g =>
    rcases h with h | h
    · cases h
    · change g.isSystem = true at h
      rw [wrapReadFault, if_pos h]
      rfl
  | track | extraction => rcases h with h | h <;> cases h
  | request | http => rfl

namespace Extractor

variable {e : Extractor} {videoId note : Value}

lemma requestFailure_isExtraction {f : Failure} (h : f.isRequest = true) :
    (e.requestFailure videoId note f).isExtraction = true := by
  rw [requestFailure_of_isRequest h]
  rfl

lemma declined_isExtraction {f : Failure} (h : f.isRequest = true) :
    (e.declined videoId note f).isExtraction = true := by
  cases f with
  | http => rfl
  | request => exact requestFailure_isExtraction rfl
  | fault | track | extraction => cases h

/-- A response that was handed back gives a tree or an error of the extraction, unless it
misdeclares its encoding. -/
lemma judge_cases {r : Response} (hc : r.closed = false)
    (hf : ∀ f, r.readFault = some f → f.isRequest = true ∨ f.isSystem = true) :
    (∃ tree, e.judge videoId note r = .ok tree) ∨
      (∃ f, e.judge videoId note r = .error f ∧ f.isExtraction = true) ∨
      ∃ g, e.judge videoId note r = .error (.fault g) ∧ (Reply.response r false).Misdeclares g := by
  cases hs : r.status.equal (.int 200) with
  | false => exact .inr (.inl ⟨_, judge_of_status hc hs, rfl⟩)
  | true =>
    rw [judge_of_success hc hs]
    cases hr : r.readFault with
    | some f =>
      rw [Response.read_of_readFault hr]
      exact .inr (.inl ⟨_, rfl,
        requestFailure_isExtraction (Response.wrapReadFault_isRequest (hf f hr))⟩)
    | none =>
      rw [Response.read_of_readable hr hc]
      cases hx : e.parseXml (.bytes r.unread) videoId xmlNote with
      | ok tree => exact .inl ⟨tree, hx⟩
      | error f =>
        rcases parseXml_bytes_error hx with ⟨g, rfl⟩ | ⟨g, rfl, hg, hk⟩
        · exact .inr (.inl ⟨_, hx, rfl⟩)
        · obtain ⟨encoding, name, hd, hn⟩ := (Xml.read_bytes_error_iff r.unread g).mp ⟨hg, hk⟩
          exact .inr (.inr ⟨g, hx, r, encoding, name, rfl, hs, hr, hd, hn⟩)

/-- A reply that misdeclares its encoding gives the fault that this brings. -/
lemma verdict_of_misdeclares {handler : Handler} (hh : handler.KeepsContract) {sent : Nat}
    {request : Request} {g : Fault} (h : (handler.respond sent request).Misdeclares g)
    (index : Nat) :
    e.verdict videoId note index (handler.respond sent request) = .error (.fault g) := by
  obtain ⟨r, encoding, name, hreply, hs, hr, hd, hn⟩ := h
  obtain ⟨hg, hk⟩ := (Xml.read_bytes_error_iff r.unread g).mpr ⟨encoding, name, hd, hn⟩
  have hc : r.closed = false := (hh.response hreply).1
  rw [hreply, verdict, judge_of_success hc hs, Response.read_of_readable hr hc]
  show e.parseXml (.bytes r.unread) videoId xmlNote = _
  rw [parseXml_bytes, hg]
  simp [hk]

/-- A reply gives a tree or an error of the extraction, unless it misdeclares its encoding. -/
lemma verdict_cases {handler : Handler} (hh : handler.KeepsContract) (sent : Nat)
    (request : Request) (index : Nat) :
    let outcome := e.verdict videoId note index (handler.respond sent request)
    (∃ tree, outcome = .ok tree) ∨ (∃ f, outcome = .error f ∧ f.isExtraction = true) ∨
      ∃ g, outcome = .error (.fault g) ∧ (handler.respond sent request).Misdeclares g := by
  intro outcome
  cases hreply : handler.respond sent request with
  | failure f =>
    have hf : f.sentBySelf.isRequest = true := by
      have hr := hh.failure hreply
      cases f with
      | fault | track | extraction => cases hr
      | request _ _ _ sender => cases sender <;> rfl
      | http _ _ _ sender => cases sender <;> rfl
    refine .inr (.inl ⟨e.declined videoId note f.sentBySelf, ?_, declined_isExtraction hf⟩)
    show e.verdict videoId note index (handler.respond sent request) = _
    rw [hreply, verdict]
  | response r refused =>
    obtain ⟨hc, hf⟩ := hh.response hreply
    have ho : outcome = e.verdict videoId note index (.response r refused) := by rw [← hreply]
    rw [ho]
    cases refused with
    | true => exact .inr (.inl ⟨_, rfl, declined_isExtraction rfl⟩)
    | false => exact judge_cases hc hf

end Extractor

/-! ### Fields -/

namespace Page

variable {p : Page} {access : Access} {handler : Handler} {s : Session}

/-- The address of the manifest is resolved, and the document there declares an encoding that
brings a fault. -/
def Misled (p : Page) (resolver : Resolver) (handler : Handler) (s : Session) (g : Fault) : Prop :=
  ∃ url address, Members.get (p.info.objectAt "args") "dashmpd" = .str url ∧
    resolver.resolve p.script (.str url) = .ok (.str address) ∧
    (handler.respond s.requests.length (.get address)).Misdeclares g

/-- A manifest that was fetched gives formats or an error of the extraction. -/
lemma readManifest_cases {e : Extractor} (he : e.reporting.Working) (document : Xml.Element)
    (videoId : Value) (s : Session) :
    (∃ formats, (readManifest (some e) document videoId s).1 = .ok formats) ∨
      ∃ f, (readManifest (some e) document videoId s).1 = .error f ∧ f.isExtraction = true := by
  rw [readManifest]
  rcases Manifest.read document with ⟨listing, flaw⟩
  simp only
  rw [Run.bind_of_fst (listing.deliver_ok videoId he s)]
  cases flaw with
  | none => exact .inl ⟨_, rfl⟩
  | some flaw => cases flaw <;> exact .inr ⟨_, rfl, rfl⟩

/-- A field that is no manifest gives formats or an error of the extraction. -/
lemma load_cases (access : Access) (hp : p.extractor.reporting.Working) {source : FormatSource}
    (hs : source ≠ .manifest) (v : Value) (s : Session) :
    (∃ formats, (p.load access source v s).1 = .ok formats) ∨
      ∃ f, (p.load access source v s).1 = .error f ∧ f.isExtraction = true := by
  cases source with
  | adaptive | streamMap => exact .inl ⟨_, Listing.deliver_ok _ p.videoId hp s⟩
  | manifest => exact absurd rfl hs
  | playerResponse =>
    rw [load_playerResponse hp]
    cases hr : p.extractor.playerResponse v p.videoId with
    | ok response => exact .inl ⟨_, rfl⟩
    | error f =>
      obtain ⟨g, rfl⟩ := Extractor.playerResponse_error hr
      exact .inr ⟨_, rfl, rfl⟩

/-- With working settings a manifest comes to what is made of the reply to its request. -/
lemma document_fst (hp : p.extractor.reporting.Working) (ha : access.handler = some handler)
    (url : Value) (address : String) (s : Session) :
    (p.document access (.str address) (p.looked url s)).1 =
      p.extractor.verdict p.videoId (.str "Failed to download DASH manifest") s.responses.length
        (handler.respond s.requests.length (.get address)) := by
  rw [document, ha]
  exact Extractor.downloadXml_fst hp handler address _ (p.looked url s)

/-- The manifest gives formats or an error of the extraction, unless it is misdeclared. -/
lemma load_manifest_cases (hp : p.extractor.reporting.Working)
    (ha : access.handler = some handler) (hh : handler.KeepsContract)
    (hr : access.resolver.KeepsContract) {v : Value}
    (hv : FormatSource.manifest.value? p.arguments = some v) (s : Session) :
    let outcome := (p.load access .manifest v s).1
    (∃ formats, outcome = .ok formats) ∨ (∃ f, outcome = .error f ∧ f.isExtraction = true) ∨
      ∃ g, outcome = .error (.fault g) ∧ p.Misled access.resolver handler s g := by
  obtain ⟨url, rfl, hurl⟩ := FormatSource.value?_eq_str (by simp) hv
  intro outcome
  have ho : outcome = (p.ofManifest access (.str url) s).1 := rfl
  rw [ofManifest_apply] at ho
  rcases hr p.script url with ⟨address, hres⟩ | ⟨severity, text, cause, videoId, ie, hres⟩
  · have hd := document_fst hp ha (.str url) address s
    simp only [hres] at ho
    rcases Extractor.verdict_cases hh s.requests.length (.get address) s.responses.length with
      ⟨tree, hx⟩ | ⟨f, hx, hf⟩ | ⟨g, hx, hg⟩
    · rw [hx] at hd
      rw [ho, Run.bind_of_fst hd]
      rcases readManifest_cases hp tree p.videoId (p.document access (.str address)
        (p.looked (.str url) s)).2 with hm | hm
      · exact .inl hm
      · exact .inr (.inl hm)
    · rw [hx] at hd
      rw [ho, Run.bind_of_fst_error hd]
      exact .inr (.inl ⟨f, rfl, hf⟩)
    · rw [hx] at hd
      rw [ho, Run.bind_of_fst_error hd]
      exact .inr (.inr ⟨g, rfl, url, address, hurl, hres, hg⟩)
  · simp only [hres] at ho
    exact .inr (.inl ⟨_, ho, rfl⟩)

/-- A misdeclared manifest gives the fault that this brings. -/
lemma load_of_misled (hp : p.extractor.reporting.Working) (ha : access.handler = some handler)
    (hh : handler.KeepsContract) {g : Fault} (h : p.Misled access.resolver handler s g) :
    ∃ v, FormatSource.manifest.value? p.arguments = some v ∧
      (p.load access .manifest v s).1 = .error (.fault g) := by
  obtain ⟨url, address, hurl, hres, hg⟩ := h
  refine ⟨.str url, ?_, ?_⟩
  · exact FormatSource.value?_of_str hurl
  · have hd := document_fst hp ha (.str url) address s
    rw [Extractor.verdict_of_misdeclares hh hg] at hd
    show (p.ofManifest access (.str url) s).1 = _
    rw [ofManifest_apply]
    simp only [hres]
    rw [Run.bind_of_fst_error hd]

/-! ### Pages -/

lemma Misled.kind {resolver : Resolver} {g : Fault} (h : p.Misled resolver handler s g) :
    Xml.IsEncodingKind g.kind := by
  obtain ⟨_, _, _, _, _, _, _, _, _, _, _, hn⟩ := h
  exact Xml.Encoding.ofName_error_kind hn

/-- A misdeclared manifest decides, if no field before it gives any formats. -/
lemma Misled.formats_fst {g : Fault} (h : p.Misled access.resolver handler s g)
    (hp : p.extractor.reporting.Working) (ha : access.handler = some handler)
    (hh : handler.KeepsContract) (ht : p.Yieldless access s .adaptive)
    (hr : p.Yieldless access s .playerResponse) :
    (p.formats access s).1 = .error (.fault g) := by
  have hs : p.StopsAt access s .manifest (.error (.fault g)) := by
    refine ⟨fun field hf => ?_, load_of_misled hp ha hh h, by simp⟩
    rcases FormatSource.mem_manifest_earlier.mp hf with rfl | rfl
    · exact ht
    · exact hr
  exact hs.formats_fst hp

/-- **What leaves a page**, with working settings, a resolver and a handler that keep their
contracts: formats, an error of the extraction, or a fault of the platform. Such a fault leaves
the page exactly if no field before the manifest gives any formats and the manifest declares an
encoding that brings it; it is about an unknown name, a name in no use, or an encoding of several
bytes to a character. -/
theorem formats_escape (hp : p.extractor.reporting.Working) (ha : access.handler = some handler)
    (hh : handler.KeepsContract) (hr : access.resolver.KeepsContract) (s : Session) :
    let outcome := (p.formats access s).1
    ((∃ formats, outcome = .ok formats ∧ formats ≠ []) ∨
        (∃ f, outcome = .error f ∧ f.isExtraction = true) ∨
        ∃ g, outcome = .error (.fault g) ∧ Xml.IsEncodingKind g.kind) ∧
      ∀ g, outcome = .error (.fault g) ↔
        p.Yieldless access s .adaptive ∧ p.Yieldless access s .playerResponse ∧
          p.Misled access.resolver handler s g := by
  intro outcome
  have hcases : (∃ formats, outcome = .ok formats ∧ formats ≠ []) ∨
      (∃ f, outcome = .error f ∧ f.isExtraction = true) ∨
      ∃ g, outcome = .error (.fault g) ∧ p.Yieldless access s .adaptive ∧
        p.Yieldless access s .playerResponse ∧ p.Misled access.resolver handler s g := by
    rcases formats_cases hp access s with ⟨source, hs⟩ | ⟨-, hu⟩
    · obtain ⟨v, hv, ho⟩ := hs.here
      by_cases hm : source = .manifest
      · subst hm
        have hc := load_manifest_cases hp ha hh hr hv s
        rw [ho] at hc
        rcases hc with ⟨formats, hf⟩ | he | ⟨g, hg, hmis⟩
        · exact .inl ⟨formats, hf, fun h => hs.decided (by rw [hf, h])⟩
        · exact .inr (.inl he)
        · exact .inr (.inr ⟨g, hg, hs.earlier _ (by decide), hs.earlier _ (by decide), hmis⟩)
      · have hc := load_cases access hp hm v s
        rw [ho] at hc
        rcases hc with ⟨formats, hf⟩ | he
        · exact .inl ⟨formats, hf, fun h => hs.decided (by rw [hf, h])⟩
        · exact .inr (.inl he)
    · exact .inr (.inl ⟨_, hu, rfl⟩)
  refine ⟨?_, fun g => ⟨fun h => ?_, fun ⟨hy, hy', hm⟩ => hm.formats_fst hp ha hh hy hy'⟩⟩
  · rcases hcases with hf | he | ⟨g, hg, -, -, hm⟩
    · exact .inl hf
    · exact .inr (.inl he)
    · exact .inr (.inr ⟨g, hg, hm.kind⟩)
  · rcases hcases with ⟨formats, hf, -⟩ | ⟨f, hf, he⟩ | ⟨g', hg, hy⟩
    · rw [hf] at h
      cases h
    · rw [hf] at h
      cases h
      cases he
    · rw [hg] at h
      cases h
      exact hy

/-- A manifest that declares an encoding nobody knows brings a fault. -/
theorem formats_escape_of_unknown :
    let page : Page := .ofInfo (.str "abc")
      (.object [("args", .object [("dashmpd", .str "http://x/mpd")])]) [("logger", .recorder true)]
    let body := Text.Utf8.encode "<?xml version='1.0' encoding='x-none'?><MPD/>".toList
    let handler : Handler := ⟨fun _ => Handler.answer body none (.object []) (.int 200) .null false⟩
    handler.KeepsContract ∧ Resolver.passthrough.KeepsContract ∧
      (page.formats ⟨some handler, .passthrough⟩ {}).1 =
        .error (.fault (.unknownEncoding "x-none")) := by
  intro page body handler
  have hp : page.extractor.reporting.Working := fun v h => by cases h
  have hh : handler.KeepsContract := Handler.answer_keepsContract body
  have hr : Resolver.passthrough.KeepsContract := Resolver.passthrough_keepsContract
  have habsent (source : FormatSource) (hs : source ≠ .manifest) :
      page.Yieldless ⟨some handler, .passthrough⟩ {} source := by
    refine .inl ((FormatSource.value?_eq_none_iff _ _).mp ?_)
    cases source with
    | manifest => exact absurd rfl hs
    | adaptive | playerResponse | streamMap => rfl
  have hmisled : page.Misled .passthrough handler {} (.unknownEncoding "x-none") :=
    ⟨"http://x/mpd", "http://x/mpd", rfl, rfl, _, .utf8, "x-none".toList, rfl, rfl, rfl, rfl, rfl⟩
  have ha : (Access.mk (some handler) .passthrough).handler = some handler := rfl
  exact ⟨hh, hr, ((formats_escape hp ha hh hr {}).2 _).mpr
    ⟨habsent _ (by simp), habsent _ (by simp), hmisled⟩⟩

end Page

end PlayerPage
