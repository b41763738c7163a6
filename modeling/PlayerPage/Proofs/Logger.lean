import PlayerPage.Proofs.Run

/-!
What a logger receives of the reports that are handed on, one after the other.

* `Settings.wants`: whether a report is wanted. `Settings.reaches`: whether one that is wanted goes
  to the logger that there is; a debug message does not, if the logger counts as a no in a
  condition.
* `Settings.deliver_of_recorder`: what becomes of a report, if there is a logger;
  `Run.forM_tell_of_recorder`: what becomes of any number of them.
* `Settings.logger_receives_iff`: when the logger receives everything;
  `Settings.logger_receives_of_falsy`: a logger that does not.
-/

namespace PlayerPage

namespace Settings

/-- To set one thing anew leaves the others as they are. -/
lemma get_set_of_ne (settings : Settings) {name other : String} (h : other ≠ name)
    (setting : Setting) : (settings.set name setting).get other = settings.get other := by
  have hlookup : (settings.set name setting).lookup other = settings.lookup other := by
    induction settings with
    | nil =>
      have hbeq : (other == name) = false := by simp [h]
      rw [set, List.lookup_cons, hbeq]
    | cons pair rest ih =>
      obtain ⟨n, old⟩ := pair
      rw [set]
      by_cases hn : n = name
      · have hbeq : (other == n) = false := by simp [hn, h]
        rw [if_pos (by simp [hn]), List.lookup_cons, List.lookup_cons, hbeq]
      · rw [if_neg (by simp [hn]), List.lookup_cons, List.lookup_cons, ih]
  rw [get, get, hlookup]

/-! ### One report -/

/-- Whether a report is wanted: a warning always is, a debug message on demand. -/
def wants (settings : Settings) (r : Report) : Bool :=
  r.level = .warning || (settings.get "verbose").holds

/-- Whether a report that is wanted goes to the logger. For a warning it is enough that there is
one, for a debug message the logger has to count as a yes, too. -/
def reaches (settings : Settings) (r : Report) : Bool :=
  r.level = .warning || (settings.get "logger").holds

end Settings

/-- The line on the console that shows a debug message. -/
def Report.debugLine (r : Report) : String :=
  "[debug] " ++ r.message.display ++ "\n"

lemma Report.debugLine_ne_empty (r : Report) : r.debugLine ≠ "" := by
  simp [debugLine]

namespace Settings

variable {settings : Settings} {holds : Bool}

/-- With a logger, a report that is wanted goes to it or, if it does not reach it, to the
console. -/
lemma deliver_of_recorder (h : settings.get "logger" = .recorder holds) (r : Report) :
    settings.deliver r =
      if settings.wants r then
        if settings.reaches r then .journal r.recorded else .console r.debugLine
      else .nowhere := by
  obtain ⟨level, message⟩ := r
  cases level with
  | warning => simp [deliver, deliverWarning, h, handTo, wants, reaches, Report.recorded]
  | debug => simp [deliver, deliverDebug, h, handTo, wants, reaches, Report.recorded,
      Report.debugLine]

/-- Whether warnings are unwanted on the console makes no difference to a logger. -/
lemma deliver_set_noWarnings (h : settings.get "logger" = .recorder holds) (setting : Setting) :
    (settings.set "no_warnings" setting).deliver = settings.deliver := by
  have hl : (settings.set "no_warnings" setting).get "logger" = settings.get "logger" :=
    settings.get_set_of_ne (by decide) setting
  have hv : (settings.set "no_warnings" setting).get "verbose" = settings.get "verbose" :=
    settings.get_set_of_ne (by decide) setting
  funext r
  rw [deliver_of_recorder (hl.trans h), deliver_of_recorder h, wants, wants, reaches, reaches, hl,
    hv]

end Settings

/-! ### Any number of reports -/

namespace Run

variable {settings : Settings} {holds : Bool}

/-- The logger receives the wanted reports that reach it, in order, and the console shows the
others. -/
lemma forM_tell_of_recorder (h : settings.get "logger" = .recorder holds) (calls : List Report)
    (s : Session) :
    let wanted := calls.filter settings.wants
    calls.forM (tell settings) s = (.ok (), { s with
      journal := s.journal ++ (wanted.filter settings.reaches).map Report.recorded
      console := s.console ++
        String.join ((wanted.filter (! settings.reaches ·)).map Report.debugLine) }) := by
  induction calls generalizing s with
  | nil =>
    show (Except.ok (), s) = _
    simp
  | cons r rest ih =>
    show (tell settings r >>= fun _ => rest.forM (tell settings)) s = _
    have htell := tell_apply settings r s
    rw [Settings.deliver_of_recorder h] at htell
    by_cases hw : settings.wants r
    · by_cases hr : settings.reaches r
      · rw [if_pos hw, if_pos hr] at htell
        rw [bind_of_ok htell, ih]
        simp [hw, hr]
      · rw [if_pos hw, if_neg hr] at htell
        rw [bind_of_ok htell, ih]
        simp [hw, hr, String.append_assoc]
    · rw [if_neg hw] at htell
      rw [bind_of_ok htell, ih]
      simp [hw]

end Run

lemma eq_empty_of_join {texts : List String} (h : String.join texts = "") :
    ∀ text ∈ texts, text = "" := by
  induction texts with
  | nil => simp
  | cons text rest ih =>
    rw [String.join_cons, String.append_eq_empty_iff] at h
    simpa [h.1] using ih h.2

namespace Settings

variable {settings : Settings} {holds : Bool}

/-- Nothing that is wanted fails to reach the logger exactly if it counts as a yes, or debug
messages are not wanted, or there are none. -/
lemma missed_eq_nil_iff (settings : Settings) (calls : List Report) :
    (calls.filter settings.wants).filter (! settings.reaches ·) = [] ↔
      (settings.get "logger").holds = true ∨ (settings.get "verbose").holds = false ∨
        ∀ r ∈ calls, r.level = .warning := by
  rw [List.filter_eq_nil_iff]
  simp only [List.mem_filter, wants, reaches, Bool.not_eq_true', Bool.not_eq_false, Bool.or_eq_true,
    decide_eq_true_eq]
  constructor
  · intro hall
    by_cases hl : (settings.get "logger").holds = true
    · exact .inl hl
    · by_cases hv : (settings.get "verbose").holds = true
      · exact .inr (.inr fun r hr => (hall r ⟨hr, .inr hv⟩).resolve_right hl)
      · exact .inr (.inl (by simpa using hv))
  · rintro (hl | hv | hw) r ⟨hr, hwants⟩
    · exact .inr hl
    · exact .inl (hwants.resolve_right (by simp [hv]))
    · exact .inl (hw r hr)

/-- **What a logger receives.** Every report is handed on, whatever reports there are: the logger
receives the warnings as they are and, if debug messages are wanted and the logger counts as a yes,
the marked debug messages, in order; those that are wanted otherwise are shown on the console.
Therefore the logger receives everything that is wanted, and nothing is shown, exactly if the logger
counts as a yes, or debug messages are not wanted, or there are none. Whether warnings are unwanted
makes no difference. -/
theorem logger_receives_iff (h : settings.get "logger" = .recorder holds) (calls : List Report)
    (s : Session) :
    let verbose := (settings.get "verbose").holds
    let wanted := calls.filter fun r => r.level = .warning || verbose
    let run := calls.forM (Run.tell settings) s
    run = (.ok (), { s with
        journal := s.journal ++
          (wanted.filter fun r => r.level = .warning || holds).map Report.recorded
        console := s.console ++
          String.join ((wanted.filter fun r => !(r.level = .warning || holds)).map
            Report.debugLine) }) ∧
      (run = (.ok (), { s with journal := s.journal ++ wanted.map Report.recorded }) ↔
        holds = true ∨ verbose = false ∨ ∀ r ∈ calls, r.level = .warning) ∧
      ∀ setting, calls.forM (Run.tell (settings.set "no_warnings" setting)) s = run := by
  intro verbose wanted run
  have hholds : (settings.get "logger").holds = holds := by rw [h]; rfl
  have hreaches : settings.reaches = fun r => r.level = .warning || holds := by
    funext r
    rw [reaches, hholds]
  have hmissed := missed_eq_nil_iff settings calls
  have hrun : run = _ := Run.forM_tell_of_recorder h calls s
  rw [hreaches] at hrun hmissed
  rw [hholds] at hmissed
  refine ⟨hrun, ?_, fun setting => ?_⟩
  · rw [← hmissed]
    constructor
    · -- a line on the console is no empty text
      intro hlaw
      have hconsole := congrArg (fun run => run.2.console) (hrun.symm.trans hlaw)
      have hlines := eq_empty_of_join (String.append_eq_left_iff.mp hconsole)
      refine List.eq_nil_iff_forall_not_mem.mpr fun r hr => ?_
      exact r.debugLine_ne_empty (hlines _ (List.mem_map_of_mem hr))
    · intro hnil
      have hall : wanted.filter (fun r => r.level = .warning || holds) = wanted := by
        refine List.filter_eq_self.mpr fun r hr => ?_
        simpa [or_iff_not_imp_left] using List.filter_eq_nil_iff.mp hnil r hr
      have hnone : wanted.filter (fun r => !(r.level = .warning || holds)) = [] := hnil
      rw [hrun]
      show (Except.ok (), { s with
        journal := s.journal ++ (wanted.filter _).map Report.recorded
        console := s.console ++ String.join ((wanted.filter _).map Report.debugLine) }) = _
      rw [hall, hnone]
      simp
  · have htell : Run.tell (settings.set "no_warnings" setting) = Run.tell settings := by
      funext r
      rw [Run.tell, Run.tell, deliver_set_noWarnings h]
    rw [htell]

/-- A logger that counts as a no misses the debug message that is wanted: it is shown on the
console. -/
theorem logger_receives_of_falsy :
    let settings : Settings := [("logger", .recorder false), ("verbose", .value (.bool true))]
    let calls : List Report := [.warning "late", .debug "read"]
    let run := calls.forM (Run.tell settings) {}
    settings.get "logger" = .recorder false ∧
      run.2.journal = [.warning "late"] ∧ run.2.console = "[debug] read\n" ∧
      run ≠ (.ok (), { journal := [.warning "late", .debug "[debug] read"] }) := by
  intro settings calls run
  have h : settings.get "logger" = .recorder false := rfl
  obtain ⟨hrun, hiff, -⟩ := logger_receives_iff h calls {}
  refine ⟨h, congrArg (·.2.journal) hrun, congrArg (·.2.console) hrun, fun hlaw => ?_⟩
  rcases hiff.mp hlaw with hl | hv | hw
  · cases hl
  · cases hv
  · cases hw (.debug "read") (by simp [calls])

end Settings

end PlayerPage
