import Mathlib.Tactic.Common
import PlayerPage.Extractor.Listing

/-!
Runs, one step at a time.

* `Run.bind_apply`, `Run.tryCatch_apply`: what composed work does in a session. `Run.bind_of_fst`
  goes on after a step that succeeded, `Run.eq_of_bind_ok` takes a run that succeeded apart.
* `Session.SameTraffic`: two sessions with the same requests, responses and look-ups, which may
  differ in what was reported.
* `Run.Local`: work that only reports, and comes to the same whatever was done before it.
  `Run.IgnoresReports`: work that does the same whatever was reported before it. Both are passed
  on along the steps of a run (`Run.Local.bind`, `Run.IgnoresReports.bind`).
* `Settings.Working`: every report can be handed on; `Extractor.tellAll_ok` and
  `Listing.deliver_ok`: reporting does not fail then.
* `Listing.deliver_fst_eq`: whether reports can be handed on depends only on their levels.
* `Settings.Recording`: a logger takes every report; `Listing.deliver_recording`: what it records of
  a listing.
-/

namespace PlayerPage

/-! ### The steps of a run -/

namespace Run

variable {α β : Type}

@[simp] lemma ofExcept_apply (x : Except Failure α) (s : Session) : ofExcept x s = (x, s) := by
  cases x <;> rfl

@[simp] lemma ofFault_error (f : Fault) (s : Session) :
    (ofFault (.error f) : Run α) s = (.error (.fault f), s) := rfl

lemma bind_apply (m : Run α) (k : α → Run β) (s : Session) :
    (m >>= k) s = match m s with
      | (.ok a, t) => k a t
      | (.error f, t) => (.error f, t) := by
  show (ExceptT.bind m k) s = _
  simp only [ExceptT.bind, ExceptT.mk, bind, StateT.bind]
  rcases m s with ⟨_ | _, _⟩ <;> rfl

lemma tryCatch_apply (m : Run α) (h : Failure → Run α) (s : Session) :
    (tryCatch m h) s = match m s with
      | (.ok a, t) => (.ok a, t)
      | (.error f, t) => h f t := by
  show (ExceptT.tryCatch m h) s = _
  simp only [ExceptT.tryCatch, ExceptT.mk, bind, StateT.bind]
  rcases m s with ⟨_ | _, _⟩ <;> rfl

lemma bind_of_ok {m : Run α} {s t : Session} {a : α} (h : m s = (.ok a, t)) (k : α → Run β) :
    (m >>= k) s = k a t := by
  rw [bind_apply, h]

lemma bind_of_error {m : Run α} {s t : Session} {f : Failure} (h : m s = (.error f, t))
    (k : α → Run β) : (m >>= k) s = (.error f, t) := by
  rw [bind_apply, h]

/-- Composed work goes on from the session that its first step leaves. -/
lemma bind_of_fst {m : Run α} {s : Session} {a : α} (h : (m s).1 = .ok a) (k : α → Run β) :
    (m >>= k) s = k a (m s).2 :=
  bind_of_ok (Prod.ext h rfl) k

lemma bind_of_fst_error {m : Run α} {s : Session} {f : Failure} (h : (m s).1 = .error f)
    (k : α → Run β) : (m >>= k) s = (.error f, (m s).2) :=
  bind_of_error (Prod.ext h rfl) k

/-- Composed work that succeeded did so in two steps. -/
lemma eq_of_bind_ok {m : Run α} {k : α → Run β} {s u : Session} {b : β}
    (h : (m >>= k) s = (.ok b, u)) : ∃ a t, m s = (.ok a, t) ∧ k a t = (.ok b, u) := by
  rw [bind_apply] at h
  rcases hm : m s with ⟨_ | a, t⟩ <;> rw [hm] at h
  · cases h
  · exact ⟨a, t, rfl, h⟩

/-- The outcome of composed work depends only on the outcome of its first step and on what its
second step comes to. -/
lemma bind_fst_congr {m m' : Run α} {k k' : α → Run β} {s t : Session}
    (hm : (m s).1 = (m' t).1) (hk : ∀ a s t, (k a s).1 = (k' a t).1) :
    ((m >>= k) s).1 = ((m' >>= k') t).1 := by
  rw [bind_apply, bind_apply]
  rcases hs : m s with ⟨_ | a, s'⟩ <;> rcases ht : m' t with ⟨_ | b, t'⟩ <;>
    rw [hs, ht] at hm <;> cases hm
  · rfl
  · exact hk a s' t'

end Run

/-! ### Traffic -/

/-- Two sessions that may differ only in what was reported. -/
structure Session.SameTraffic (s t : Session) : Prop where
  requests : t.requests = s.requests
  responses : t.responses = s.responses
  lookups : t.lookups = s.lookups

namespace Session.SameTraffic

variable {s t u : Session}

lemma refl (s : Session) : s.SameTraffic s := ⟨rfl, rfl, rfl⟩

lemma symm (h : s.SameTraffic t) : t.SameTraffic s :=
  ⟨h.requests.symm, h.responses.symm, h.lookups.symm⟩

lemma trans (h : s.SameTraffic t) (h' : t.SameTraffic u) : s.SameTraffic u :=
  ⟨h'.requests.trans h.requests, h'.responses.trans h.responses, h'.lookups.trans h.lookups⟩

end Session.SameTraffic

namespace Run

variable {α β : Type}

/-- Work that only reports, and comes to the same whatever was done before it. -/
def Local (m : Run α) : Prop :=
  ∀ s t : Session, (m s).1 = (m t).1 ∧ s.SameTraffic (m s).2

/-- Work that does the same whatever was reported before it. -/
def IgnoresReports (m : Run α) : Prop :=
  ∀ s t : Session, s.SameTraffic t → (m s).1 = (m t).1 ∧ (m s).2.SameTraffic (m t).2

namespace Local

lemma traffic {m : Run α} (h : Local m) (s : Session) : s.SameTraffic (m s).2 := (h s s).2

lemma pure (a : α) : Local (Pure.pure a : Run α) :=
  fun s _ => ⟨rfl, .refl s⟩

lemma throw (f : Failure) : Local (MonadExcept.throw f : Run α) :=
  fun s _ => ⟨rfl, .refl s⟩

lemma ofExcept (x : Except Failure α) : Local (ofExcept x) := fun s t => by
  rw [ofExcept_apply, ofExcept_apply]
  exact ⟨rfl, .refl s⟩

lemma ofFault (x : Except Fault α) : Local (ofFault x) := by
  cases x with
  | ok a => exact .pure a
  | error f => exact .throw _

lemma bind {m : Run α} {k : α → Run β} (hm : Local m) (hk : ∀ a, Local (k a)) :
    Local (m >>= k) := fun s t => by
  obtain ⟨h1, h2⟩ := hm s t
  rw [bind_apply, bind_apply]
  rcases hs : m s with ⟨_ | a, s'⟩ <;> rcases ht : m t with ⟨_ | b, t'⟩ <;>
    rw [hs] at h1 h2 <;> rw [ht] at h1 <;> cases h1
  · exact ⟨rfl, h2⟩
  · exact ⟨(hk a s' t').1, h2.trans ((hk a).traffic s')⟩

/-- What is done after some work, if that only reports, leaves the traffic as it is. -/
lemma traffic_bind (m : Run α) {k : α → Run β} (hk : ∀ a, Local (k a)) (s : Session) :
    (m s).2.SameTraffic ((m >>= k) s).2 := by
  rw [bind_apply]
  rcases m s with ⟨f | a, t⟩
  · exact .refl t
  · exact (hk a).traffic t

end Local

lemma Local.ignoresReports {m : Run α} (hm : Local m) : IgnoresReports m :=
  fun s t h => ⟨(hm s t).1, (hm.traffic s).symm.trans (h.trans (hm.traffic t))⟩

namespace IgnoresReports

lemma bind {m : Run α} {k : α → Run β} (hm : IgnoresReports m) (hk : ∀ a, IgnoresReports (k a)) :
    IgnoresReports (m >>= k) := fun s t h => by
  obtain ⟨h1, h2⟩ := hm s t h
  rw [bind_apply, bind_apply]
  rcases hs : m s with ⟨_ | a, s'⟩ <;> rcases ht : m t with ⟨_ | b, t'⟩ <;>
    rw [hs, ht] at h1 h2
  · exact ⟨by cases h1; rfl, h2⟩
  · cases h1
  · cases h1
  · cases h1
    exact hk a s' t' h2

end IgnoresReports

end Run

/-! ### Reports -/

/-- Settings with which every report can be handed on: the logger, if there is one, records what
it is given. -/
def Settings.Working (settings : Settings) : Prop :=
  ∀ v, settings.get "logger" = .value v → v = .null

/-- Settings with which a logger records every report: there is one, and debug messages are
wanted. -/
structure Settings.Recording (settings : Settings) : Prop where
  logger : settings.get "logger" = .recorder true
  verbose : (settings.get "verbose").holds = true

lemma Settings.Recording.working {settings : Settings} (h : settings.Recording) :
    settings.Working := by
  intro v hv
  rw [h.logger] at hv
  cases hv

/-- What a logger records of a report: debug messages are marked. -/
def Report.recorded (r : Report) : Report :=
  match r.level with
  | .debug => .debug ("[debug] " ++ r.message.display)
  | .warning => r

/-- Working settings hand on every report. -/
lemma Settings.Working.deliver_ne_failed {settings : Settings} (h : settings.Working) (r : Report)
    (f : Fault) : settings.deliver r ≠ .failed f := by
  have hl : settings.get "logger" = .value .null ∨ ∃ b, settings.get "logger" = .recorder b := by
    cases hs : settings.get "logger" with
    | value v => exact .inl (by rw [h v hs])
    | recorder b => exact .inr ⟨b, rfl⟩
  cases hr : r.level with
  | debug =>
    rw [Settings.deliver, hr]
    simp only [Settings.deliverDebug]
    rcases hl with hl | ⟨b, hl⟩ <;> rw [hl] <;> split_ifs <;> simp [Settings.handTo]
    simp_all [Setting.holds, Value.holds]
  | warning =>
    rw [Settings.deliver, hr]
    simp only [Settings.deliverWarning]
    rcases hl with hl | ⟨b, hl⟩ <;> rw [hl]
    · simp only
      split_ifs <;> simp
    · simp [Settings.handTo]

namespace Run

lemma tell_apply (settings : Settings) (r : Report) (s : Session) :
    tell settings r s = match settings.deliver r with
      | .nowhere => (.ok (), s)
      | .console text => (.ok (), { s with console := s.console ++ text })
      | .journal r => (.ok (), { s with journal := s.journal ++ [r] })
      | .failed f => (.error (.fault f), s) := by
  rw [tell]
  cases settings.deliver r <;> rfl

lemma tell_local (settings : Settings) (r : Report) : Local (tell settings r) := fun s t => by
  rw [tell_apply, tell_apply]
  split <;> exact ⟨rfl, rfl, rfl, rfl⟩

/-- Whether a report can be handed on depends only on its level. -/
lemma tell_fst_eq (settings : Settings) {r r' : Report} (h : r.level = r'.level) (s t : Session) :
    (tell settings r s).1 = (tell settings r' t).1 := by
  obtain ⟨level, message⟩ := r
  obtain ⟨_, message'⟩ := r'
  obtain rfl : level = _ := h
  rw [tell_apply, tell_apply]
  cases level with
  | debug =>
    simp only [Settings.deliver, Settings.deliverDebug]
    split_ifs
    · cases settings.get "logger" <;> rfl
    · rfl
    · rfl
  | warning =>
    simp only [Settings.deliver, Settings.deliverWarning]
    cases settings.get "logger" with
    | recorder b => rfl
    | value v =>
      cases v with
      | null => split_ifs <;> rfl
      | bool | int | float | str | bytes | list | tuple | object => rfl

lemma tell_ok {settings : Settings} (h : settings.Working) (r : Report) (s : Session) :
    (tell settings r s).1 = .ok () := by
  rw [tell_apply]
  cases hd : settings.deliver r with
  | nowhere | console _ | journal _ => rfl
  | failed f => exact absurd hd (h.deliver_ne_failed r f)

lemma tell_recording {settings : Settings} (h : settings.Recording) (r : Report) (s : Session) :
    tell settings r s = (.ok (), { s with journal := s.journal ++ [r.recorded] }) := by
  have hd : settings.deliver r = .journal r.recorded := by
    cases hr : r.level with
    | debug =>
      rw [Settings.deliver, Report.recorded, hr]
      simp only [Settings.deliverDebug, if_pos h.verbose]
      rw [h.logger]
      rfl
    | warning =>
      obtain ⟨level, message⟩ := r
      obtain rfl : level = .warning := hr
      rw [Settings.deliver, Report.recorded]
      simp only [Settings.deliverWarning, h.logger, Settings.handTo]
  rw [tell_apply, hd]

end Run

namespace Extractor

variable (e : Extractor) (videoId : Value)

lemma tellAll_local (rs : List Report) : Run.Local (e.tellAll videoId rs) := by
  induction rs with
  | nil => exact .pure ()
  | cons r rest ih => exact .bind (Run.tell_local _ _) fun _ => ih

/-- Whether reports can be handed on depends only on their levels. -/
lemma tellAll_fst_eq {rs rs' : List Report}
    (h : rs.map (·.level) = rs'.map (·.level)) (s t : Session) :
    (e.tellAll videoId rs s).1 = (e.tellAll videoId rs' t).1 := by
  induction rs generalizing rs' s t with
  | nil =>
    cases rs' with
    | nil => rfl
    | cons => cases h
  | cons r rest ih =>
    cases rs' with
    | nil => cases h
    | cons r' rest' =>
      obtain ⟨hr, hrest⟩ := List.cons.inj h
      have hlevel : (e.report videoId r).level = (e.report videoId r').level := hr
      exact Run.bind_fst_congr (Run.tell_fst_eq e.reporting hlevel s t) fun _ => ih hrest

variable {e}

lemma tell_ok (h : e.reporting.Working) (r : Report) (s : Session) :
    (e.tell videoId r s).1 = .ok () :=
  Run.tell_ok h _ s

lemma tellAll_ok (h : e.reporting.Working) (rs : List Report) (s : Session) :
    (e.tellAll videoId rs s).1 = .ok () := by
  induction rs generalizing s with
  | nil => rfl
  | cons r rest ih =>
    rw [tellAll, Run.bind_of_fst (tell_ok videoId h r s)]
    exact ih _

/-- What a logger records of a report in the name of an extractor. -/
def entry (e : Extractor) (videoId : Value) (r : Report) : Report :=
  (e.report videoId r).recorded

lemma tellAll_recording (h : e.reporting.Recording) (rs : List Report) (s : Session) :
    e.tellAll videoId rs s =
      (.ok (), { s with journal := s.journal ++ rs.map (e.entry videoId) }) := by
  induction rs generalizing s with
  | nil =>
    rw [List.map_nil, List.append_nil]
    rfl
  | cons r rest ih =>
    have hr : e.tell videoId r s = _ := Run.tell_recording h (e.report videoId r) s
    rw [tellAll, Run.bind_of_ok hr, ih, List.append_assoc]
    rfl

end Extractor

namespace Listing

variable (listing : Listing) (e : Extractor) (videoId : Value)

lemma deliver_local : Run.Local (listing.deliver (some e) videoId) :=
  .bind (e.tellAll_local videoId _) fun _ => .pure _

variable {e}

/-- Handing on a listing gives its formats. -/
lemma deliver_ok (h : e.reporting.Working) (s : Session) :
    (listing.deliver (some e) videoId s).1 = .ok listing.formats := by
  rw [deliver, Run.bind_of_fst (e.tellAll_ok videoId h listing.reports s)]
  rfl

/-- Handing on a listing gives its formats, also if there is nobody to hand on to. -/
lemma deliver_of_working {e : Option Extractor} (he : ∀ x ∈ e, x.reporting.Working) (s : Session) :
    (listing.deliver e videoId s).1 = .ok listing.formats := by
  cases e with
  | none => rfl
  | some e => exact listing.deliver_ok videoId (he e rfl) s

/-- Only the formats of a listing are given. -/
lemma eq_of_deliver_ok {listing : Listing} {e : Option Extractor} {videoId : Value} {s t : Session}
    {formats : List Format} (h : listing.deliver e videoId s = (.ok formats, t)) :
    formats = listing.formats := by
  cases e with
  | none =>
    cases h
    rfl
  | some e =>
    obtain ⟨_, _, -, hf⟩ := Run.eq_of_bind_ok h
    cases hf
    rfl

/-- A logger records the reports of a listing in order, and nothing else changes. -/
lemma deliver_recording (h : e.reporting.Recording) (s : Session) :
    listing.deliver (some e) videoId s =
      (.ok listing.formats,
        { s with journal := s.journal ++ listing.reports.map (e.entry videoId) }) := by
  rw [deliver, Run.bind_of_ok (e.tellAll_recording videoId h listing.reports s)]
  rfl

/-- What a listing comes to depends only on its formats and the levels of its reports. -/
lemma deliver_fst_eq {listing listing' : Listing} (hf : listing.formats = listing'.formats)
    (hr : listing.reports.map (·.level) = listing'.reports.map (·.level)) (e : Option Extractor)
    (videoId : Value) (s t : Session) :
    (listing.deliver e videoId s).1 = (listing'.deliver e videoId t).1 := by
  cases e with
  | none => exact congrArg Except.ok hf
  | some e =>
    refine Run.bind_fst_congr (e.tellAll_fst_eq videoId hr s t) fun _ _ _ => ?_
    exact congrArg Except.ok hf

end Listing

end PlayerPage
