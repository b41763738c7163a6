import Mathlib.Data.List.Induction
import Mathlib.Tactic.Common
import PlayerPage.Http.Response

/-!
Responses, step by step.

* `Headers.valuesOf`, `Headers.joined`: the values of a name, whatever its case, and what they make
  up together; `Headers.get_ofTexts` finds it.
* `Response.Step`, `Response.perform`, `Response.run`: what can be done with a response, and a run
  of such steps with what each of them gave.
* `Response.run_bytes`: what has been read and what is left make up the body;
  `Response.run_closed`: a response is closed once it has been; `Response.run_headers`: its headers
  are the initial ones and those that were added.
* `Response.run_laws`: all of it, from the making of a response on.
-/

namespace PlayerPage.Http

/-! ### Headers -/

namespace Headers

variable {hs : List (String × String)}

/-- Headers with texts for names. -/
def ofTexts (hs : List (String × String)) : Headers :=
  hs.map fun h => (.str h.1, h.2)

/-- The object of headers with texts for names and values. -/
def toObject (hs : List (String × String)) : Value :=
  .object (hs.map fun h => (h.1, .str h.2))

/-- The values of the headers of a name, whatever its case, in order. -/
def valuesOf (name : String) (hs : List (String × String)) : List String :=
  (hs.filter fun h => Text.toLower h.1.toList == Text.toLower name.toList).map Prod.snd

/-- The values of the headers of a name with commas between them; a default without any. -/
def joined (name : String) (default : Value) (hs : List (String × String)) : Value :=
  if (valuesOf name hs).isEmpty then default else .str (", ".intercalate (valuesOf name hs))

lemma add_ofTexts (name value : String) :
    (ofTexts hs).add (.str name) (.str value) = .ok (ofTexts (hs ++ [(name, value)])) := by
  simp [add, valueText, ofTexts, Except.map]

/-- The headers of an object are its members. -/
lemma ofMembers_toObject (hs : List (String × String)) :
    ofMembers (hs.map fun h => (h.1, .str h.2)) = .ok (ofTexts hs) := by
  induction hs using List.reverseRecOn with
  | nil => rfl
  | append_singleton hs h ih =>
    rw [ofMembers] at ih ⊢
    rw [List.map_append, List.foldlM_append, ih]
    exact (bind_pure _).trans (add_ofTexts h.1 h.2)

lemma values_ofTexts (folded : List Char) (hs : List (String × String)) :
    values folded (ofTexts hs) =
      .ok ((hs.filter fun h => Text.toLower h.1.toList == folded).map Prod.snd) := by
  induction hs with
  | nil => rfl
  | cons h hs ih =>
    have hcons : values folded (ofTexts (h :: hs)) =
        (values folded (ofTexts hs) >>= fun more =>
          pure (if Text.toLower h.1.toList == folded then h.2 :: more else more)) := rfl
    rw [hcons, ih, List.filter_cons]
    cases Text.toLower h.1.toList == folded <;> rfl

/-- The values of a name are found, whatever its case. -/
lemma get_ofTexts (hs : List (String × String)) (name : String) (default : Value) :
    (ofTexts hs).get (.str name) default = .ok (joined name default hs) := by
  have hget : (ofTexts hs).get (.str name) default =
      (values (Text.toLower name.toList) (ofTexts hs) >>= fun found =>
        pure (if found.isEmpty then default else .str (", ".intercalate found))) := rfl
  rw [hget, values_ofTexts]
  rfl

end Headers

/-! ### Steps -/

namespace Response

/-- What can be done with a response. Leaving it closes it. -/
inductive Step where
  | read (count : Value)
  | addHeader (name value : String)
  | getHeader (name : String) (default : Value)
  | readable
  | close
  | enter
  | exit

/-- Do one step: what it gives, and the response after it. -/
def perform (r : Response) : Step → Except Failure Value × Response
  | .read count => ((r.read count).1.map .bytes, (r.read count).2)
  | .addHeader name value =>
    match r.addHeader (.str name) (.str value) with
    | .ok r' => (.ok .null, r')
    | .error f => (.error (.fault f), r)
  | .getHeader name default => ((r.getHeader (.str name) default).mapError .fault, r)
  | .readable => (.ok (.bool true), r)
  | .enter => ((r.enter.mapError .fault).map fun _ => .null, r)
  | .close | .exit => (.ok .null, r.close)

/-- Steps with what they gave. -/
abbrev Trace := List (Step × Except Failure Value)

/-- Do steps one after the other. -/
def run (r : Response) : List Step → Trace × Response
  | [] => ([], r)
  | step :: steps =>
    let (outcome, next) := r.perform step
    let (trace, last) := next.run steps
    ((step, outcome) :: trace, last)

namespace Step

/-- The header that a step adds. -/
def added? : Step → Option (String × String)
  | read _ | getHeader .. | readable | close | enter | exit => none
  | addHeader name value => some (name, value)

/-- A step that closes the response. -/
def Closes (step : Step) : Prop :=
  step = .close ∨ step = .exit

/-- A step that needs an open response. -/
def NeedsOpen (step : Step) : Prop :=
  step = .enter ∨ ∃ count, step = .read count

/-- A step that asks for all that is left of the body: for no number of bytes in particular, or for
a negative one. -/
def AsksAll (step : Step) : Prop :=
  step = .read .null ∨ ∃ n < 0, step = .read (.int n)

/-- The bytes that a step with an outcome has read. -/
def bytes : Step × Except Failure Value → List UInt8
  | (.read _, .ok (.bytes bs)) => bs
  | _ => []

end Step

/-- All bytes that have been read in a run. -/
def Trace.bytes (trace : Trace) : List UInt8 :=
  trace.flatMap Step.bytes

/-! ### One step -/

section Perform

variable {r : Response} {step : Step} {count v : Value}

/-- A read fails and changes nothing, or the body can be read, the response is open, and as many
bytes as are asked for are taken from what is left. -/
lemma read_cases (r : Response) (count : Value) :
    (∃ f, r.read count = (.error f, r)) ∨
      r.readFault = none ∧ r.closed = false ∧ ∃ n, readCount r.unread.length count = .ok n ∧
        r.read count = (.ok (r.unread.take n), { r with unread := r.unread.drop n }) := by
  rw [read]
  cases hf : r.readFault with
  | some f => exact .inl ⟨_, rfl⟩
  | none =>
    cases hn : readCount r.unread.length count with
    | error f => exact .inl ⟨_, rfl⟩
    | ok n =>
      cases hc : r.closed with
      | true => exact .inl ⟨_, rfl⟩
      | false => exact .inr ⟨rfl, rfl, n, rfl, rfl⟩

/-- All that is left is read where no number of bytes is given, or a negative one. -/
lemma readCount_of_asksAll {length n : Nat} (hs : (Step.read count).AsksAll)
    (hn : readCount length count = .ok n) : n = length := by
  rcases hs with h | ⟨m, hm, h⟩ <;> cases h
  · exact (Except.ok.inj hn).symm
  · rw [readCount, if_pos hm] at hn
    split_ifs at hn
    exact (Except.ok.inj hn).symm

/-- A body that can be read gives all that has not been read yet. -/
lemma read_of_readable (hr : r.readFault = none) (hc : r.closed = false) :
    (r.read .null).1 = .ok r.unread := by
  simp [read, hr, hc, readCount]

/-- A body that cannot be read fails as its fault says, once that has been wrapped. -/
lemma read_of_readFault {f : Failure} (hr : r.readFault = some f) :
    (r.read count).1 = .error (wrapReadFault f) := by
  simp [read, hr]

lemma close_of_closed (hc : r.closed = true) : r.close = r := by
  rw [close, ← hc]

lemma perform_addHeader (r : Response) (name value : String) :
    r.perform (.addHeader name value) =
      (.ok .null, { r with headers := r.headers ++ [(.str name, value)] }) :=
  rfl

lemma perform_closed (r : Response) (step : Step) :
    (r.perform step).2.closed = true ↔ r.closed = true ∨ step.Closes := by
  cases step with
  | read count =>
    rcases read_cases r count with ⟨f, h⟩ | ⟨-, -, n, -, h⟩ <;> simp [perform, h, Step.Closes]
  | addHeader name value => simp [perform_addHeader, Step.Closes]
  | getHeader name default => simp [perform, Step.Closes]
  | readable => simp [perform, Step.Closes]
  | close => simp [perform, close, Step.Closes]
  | enter => simp [perform, Step.Closes]
  | exit => simp [perform, close, Step.Closes]

/-- A closed response is neither read nor entered. -/
lemma perform_of_closed (hc : r.closed = true) (hs : step.NeedsOpen) :
    ∃ f, (r.perform step).1 = .error f := by
  rcases hs with rfl | ⟨count, rfl⟩
  · exact ⟨.fault .closed, by simp [perform, enter, hc, Except.mapError, Except.map]⟩
  · rcases read_cases r count with ⟨f, h⟩ | ⟨-, hopen, -⟩
    · exact ⟨f, by rw [perform, h]; rfl⟩
    · rw [hc] at hopen
      cases hopen

lemma perform_headers {hs : List (String × String)} (hr : r.headers = Headers.ofTexts hs)
    (step : Step) :
    (r.perform step).2.headers = Headers.ofTexts (hs ++ step.added?.toList) := by
  cases step with
  | read count =>
    rcases read_cases r count with ⟨f, h⟩ | ⟨-, -, n, -, h⟩ <;> simp [perform, h, hr, Step.added?]
  | addHeader name value =>
    simp [perform_addHeader, hr, Headers.ofTexts, Step.added?]
  | getHeader | readable | close | enter | exit => simp [perform, close, hr, Step.added?]

lemma perform_readFault (r : Response) (step : Step) :
    (r.perform step).2.readFault = r.readFault := by
  cases step with
  | read count =>
    rcases read_cases r count with ⟨f, h⟩ | ⟨-, -, n, -, h⟩ <;> simp [perform, h]
  | addHeader name value => rfl
  | getHeader | readable | close | enter | exit => rfl

/-- What a step reads is taken from what is left. -/
lemma perform_bytes (r : Response) (step : Step) :
    Step.bytes (step, (r.perform step).1) ++ (r.perform step).2.unread = r.unread := by
  cases step with
  | read count =>
    rcases read_cases r count with ⟨f, h⟩ | ⟨-, -, n, -, h⟩ <;>
      simp [perform, h, Except.map, Step.bytes]
  | addHeader name value => rfl
  | getHeader | readable | close | enter | exit => simp [perform, close, Step.bytes]

/-- Nothing is left after a read of all that is left. -/
lemma perform_of_asksAll (hs : step.AsksAll) (hv : (r.perform step).1 = .ok v) :
    (r.perform step).2.unread = [] := by
  obtain ⟨count, rfl⟩ : ∃ count, step = .read count := by
    rcases hs with rfl | ⟨n, -, rfl⟩ <;> exact ⟨_, rfl⟩
  rcases read_cases r count with ⟨f, h⟩ | ⟨-, -, n, hn, h⟩
  · rw [perform, h] at hv
    cases hv
  · rw [perform, h, readCount_of_asksAll hs hn]
    simp

end Perform

/-! ### Runs -/

section Run

variable {r : Response} {steps later : List Step}

lemma run_cons (r : Response) (step : Step) (steps : List Step) :
    r.run (step :: steps) =
      ((step, (r.perform step).1) :: ((r.perform step).2.run steps).1,
        ((r.perform step).2.run steps).2) :=
  rfl

/-- The body is what has been read, followed by what is left. -/
lemma run_bytes (r : Response) (steps : List Step) :
    (r.run steps).1.bytes ++ (r.run steps).2.unread = r.unread := by
  induction steps generalizing r with
  | nil => rfl
  | cons step steps ih =>
    rw [run_cons, Trace.bytes, List.flatMap_cons, List.append_assoc]
    exact (congrArg _ (ih _)).trans (perform_bytes r step)

/-- Nothing is left once all that was left has been read. -/
lemma run_of_asksAll {step : Step} {v : Value} (hs : step.AsksAll)
    (hv : (step, .ok v) ∈ (r.run steps).1) : (r.run steps).2.unread = [] := by
  induction steps generalizing r with
  | nil => cases hv
  | cons first steps ih =>
    rw [run_cons] at hv ⊢
    rcases List.mem_cons.mp hv with he | hv
    · obtain ⟨rfl, he⟩ := Prod.mk.inj he
      have hnone : (r.perform step).2.unread = [] := perform_of_asksAll hs he.symm
      have hleft := run_bytes (r.perform step).2 steps
      rw [hnone] at hleft
      exact (List.append_eq_nil_iff.mp hleft).2
    · exact ih hv

/-- A response is closed once a step has closed it. -/
lemma run_closed (r : Response) (steps : List Step) :
    (r.run steps).2.closed = true ↔ r.closed = true ∨ ∃ step ∈ steps, step.Closes := by
  induction steps generalizing r with
  | nil => simp [run]
  | cons step steps ih =>
    rw [run_cons, ih, perform_closed, or_assoc]
    simp only [List.mem_cons, exists_eq_or_imp]

/-- A closed response is neither read nor entered any more. -/
lemma run_of_closed (hc : r.closed = true) :
    ∀ entry ∈ (r.run steps).1, entry.1.NeedsOpen → ∃ f, entry.2 = .error f := by
  induction steps generalizing r with
  | nil => exact fun _ h => by cases h
  | cons step steps ih =>
    intro entry he hs
    rw [run_cons] at he
    rcases List.mem_cons.mp he with rfl | he
    · exact perform_of_closed hc hs
    · exact ih ((perform_closed r step).mpr (.inl hc)) entry he hs

/-- The headers are those that were there and those that have been added. -/
lemma run_headers {hs : List (String × String)} (hr : r.headers = Headers.ofTexts hs)
    (steps : List Step) :
    (r.run steps).2.headers = Headers.ofTexts (hs ++ steps.filterMap Step.added?) := by
  induction steps generalizing r hs with
  | nil => simpa [run] using hr
  | cons step steps ih =>
    rw [run_cons, ih (perform_headers hr step), List.append_assoc, List.filterMap_cons]
    cases step.added? <;> rfl

lemma run_readFault (r : Response) (steps : List Step) :
    (r.run steps).2.readFault = r.readFault := by
  induction steps generalizing r with
  | nil => rfl
  | cons step steps ih => exact (ih _).trans (perform_readFault r step)

/-- What cannot be read fails in the same way every time. -/
lemma run_of_readFault {f : Failure} (hr : r.readFault = some f) {count : Value}
    {outcome : Except Failure Value} (h : (.read count, outcome) ∈ (r.run steps).1) :
    outcome = .error (wrapReadFault f) := by
  induction steps generalizing r with
  | nil => cases h
  | cons step steps ih =>
    rw [run_cons] at h
    rcases List.mem_cons.mp h with he | h
    · obtain ⟨rfl, rfl⟩ := Prod.mk.inj he
      rw [perform, read_of_readFault hr]
      rfl
    · exact ih ((perform_readFault r step).trans hr) h

end Run

lemma make_toObject (body : List UInt8) (fault : Option Failure) (url status reason : Value)
    (initial : List (String × String)) :
    make body fault url (Headers.toObject initial) status reason =
      .ok ⟨url, status, if reason.isNull then .ofOption (Status.phrase? status) else reason,
        Headers.ofTexts initial, body, fault, false⟩ := by
  rw [Headers.toObject, make, Headers.ofMembers_toObject]
  rfl

/-- **Responses under any run of steps.** A response can be made of any body and any initial headers
with texts for values, and whatever has been done with it since:
* If the body can be read, what has been read is a beginning of it, and all of it once a read of all
  that is left has succeeded; as long as the response is open such a read does succeed and gives the
  rest.
* If the body cannot be read because of a fault of input or output, each read fails by an error of
  the connection with this fault as its cause.
* The response is closed exactly if a step has closed it. Closing it again changes nothing, it stays
  closed, and it is neither read nor entered any more.
* A header has the values of its name, whatever its case, among the initial headers and those that
  have been added, in this order, with commas between them; without any it is the default. -/
theorem run_laws (body : List UInt8) (fault : Option Failure) (url status reason : Value)
    (initial : List (String × String)) :
    ∃ r, make body fault url (Headers.toObject initial) status reason = .ok r ∧
      ∀ steps : List Step,
        let trace := (r.run steps).1
        let last := (r.run steps).2
        (fault = none → trace.bytes <+: body ∧
          ((∃ step v, (step, .ok v) ∈ trace ∧ step.AsksAll) → trace.bytes = body) ∧
          (last.closed = false → ∃ rest, trace.bytes ++ rest = body ∧
            (last.perform (.read .null)).1 = .ok (.bytes rest))) ∧
        (∀ f, fault = some (.fault f) → f.isSystem = true →
          ∀ count outcome, (.read count, outcome) ∈ trace →
            ∃ text, outcome = .error (.request true text (.failure (.fault f)) .unset)) ∧
        (last.closed = true ↔ ∃ step ∈ steps, step.Closes) ∧
        (last.closed = true →
          (∀ step, step.Closes → last.perform step = (.ok .null, last)) ∧
          ∀ later, (last.run later).2.closed = true ∧
            ∀ entry ∈ (last.run later).1, entry.1.NeedsOpen → ∃ f, entry.2 = .error f) ∧
        ∀ name default, last.perform (.getHeader name default) =
          (.ok (Headers.joined name default (initial ++ steps.filterMap Step.added?)), last) := by
  refine ⟨_, make_toObject body fault url status reason initial, fun steps => ?_⟩
  generalize hr : (⟨url, status, _, Headers.ofTexts initial, body, fault, false⟩ : Response) = r
  have hbody : r.unread = body := by rw [← hr]
  have hfault : r.readFault = fault := by rw [← hr]
  have hopen : r.closed = false := by rw [← hr]
  have hheaders : r.headers = Headers.ofTexts initial := by rw [← hr]
  intro trace last
  have hbytes : trace.bytes ++ last.unread = body := (run_bytes r steps).trans hbody
  refine ⟨fun hnone => ⟨⟨_, hbytes⟩, ?_, fun hlast => ⟨_, hbytes, ?_⟩⟩, ?_, ?_, ?_, ?_⟩
  · rintro ⟨step, v, hmem, hall⟩
    have hleft : last.unread = [] := run_of_asksAll hall hmem
    rwa [hleft, List.append_nil] at hbytes
  · have hreads : last.readFault = none := (run_readFault r steps).trans (hfault.trans hnone)
    rw [perform, read_of_readable hreads hlast]
    rfl
  · intro f hf hsystem count outcome h
    have houtcome := run_of_readFault (hfault.trans hf) h
    rw [wrapReadFault, if_pos hsystem] at houtcome
    exact ⟨_, houtcome⟩
  · simp [last, run_closed, hopen]
  · intro hclosed
    refine ⟨?_, fun later => ⟨(run_closed last later).mpr (.inl hclosed), run_of_closed hclosed⟩⟩
    rintro step (rfl | rfl) <;> rw [perform, close_of_closed hclosed]
  · intro name default
    rw [perform, getHeader, run_headers hheaders steps, Headers.get_ofTexts]
    rfl

/-- A body that is read in two pieces while a header is added in another case, and read once more
after it has been left; and a body whose connection breaks. -/
theorem run_laws_of_pieces :
    let steps := [.read (.int 2), .addHeader "SET-COOKIE" "b=2", .read (.int (-1)), .exit, .enter]
    let reset := Fault.given .connectionReset [.int 104, .str "reset"]
    (∃ r, make [1, 2, 3] none (.str "http://x") (Headers.toObject [("Set-Cookie", "a=1")])
        (.int 200) .null = .ok r ∧
      (r.run steps).1.bytes = [1, 2, 3] ∧
      ((r.run steps).2.perform (.getHeader "set-cookie" .null)).1 = .ok (.str "a=1, b=2") ∧
      ((r.run steps).2.perform .close).1 = .ok .null ∧
      ∃ f, ((r.run steps).2.perform (.read .null)).1 = .error f) ∧
    ∃ r, make [1, 2, 3] (some (.fault reset)) (.str "http://x") (Headers.toObject []) (.int 200)
        .null = .ok r ∧
      ∃ text, (r.perform (.read .null)).1 =
        .error (.request true text (.failure (.fault reset)) .unset) := by
  intro steps reset
  constructor
  · obtain ⟨r, hr, hlaws⟩ := run_laws [1, 2, 3] none (.str "http://x") (.int 200) .null
      [("Set-Cookie", "a=1")]
    obtain ⟨hbytes, -, hclosed, hafter, hheader⟩ := hlaws steps
    obtain ⟨hclose, hlater⟩ := hafter (hclosed.mpr ⟨.exit, by simp [steps], .inr rfl⟩)
    refine ⟨r, hr, (hbytes rfl).2.1 ⟨.read (.int (-1)), .bytes [3], ?_, .inr ⟨-1, by decide, rfl⟩⟩,
      ?_, ?_, ?_⟩
    · obtain rfl := Except.ok.inj hr
      exact .tail _ (.tail _ (.head _))
    · have hvalues : Headers.valuesOf "set-cookie" [("Set-Cookie", "a=1"), ("SET-COOKIE", "b=2")] =
          ["a=1", "b=2"] := by decide +kernel
      rw [hheader]
      show Except.ok (Headers.joined "set-cookie" .null
        [("Set-Cookie", "a=1"), ("SET-COOKIE", "b=2")]) = _
      rw [Headers.joined, hvalues]
      rfl
    · rw [hclose .close (.inl rfl)]
    · exact (hlater [.read .null]).2 _ (.head _) (.inr ⟨.null, rfl⟩)
  · obtain ⟨r, hr, hlaws⟩ := run_laws [1, 2, 3] (some (.fault reset)) (.str "http://x") (.int 200)
      .null []
    obtain ⟨-, hfails, -⟩ := hlaws [.read .null]
    exact ⟨r, hr, hfails reset rfl rfl .null _ (.head _)⟩

end Response

end PlayerPage.Http
