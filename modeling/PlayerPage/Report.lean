import PlayerPage.Fault

/-!
Reports: what the library tells besides its results, and where that goes.

* `Report`: a debug message or a warning.
* `Settings`: what a caller sets, among it a logger that records reports.
* `Settings.deliver`: where a report goes: to the logger, to the console, or nowhere.
-/

namespace PlayerPage

/-- The levels of reports. -/
inductive Level where
  | debug
  | warning
  deriving DecidableEq, Repr

/-- The name of a level. -/
def Level.name : Level → String
  | .debug => "debug"
  | .warning => "warning"

/-- The level of a name. -/
def Level.ofName? (name : String) : Option Level :=
  [Level.debug, .warning].find? (·.name == name)

/-- A message of a level. -/
structure Report where
  level : Level
  message : Value

/-- A debug message. -/
def Report.debug (message : String) : Report :=
  ⟨.debug, .str message⟩

/-- A warning. -/
def Report.warning (message : String) : Report :=
  ⟨.warning, .str message⟩

/-- What a caller can set: a value, or a logger that records reports, which may count as a no in
a condition. -/
inductive Setting where
  | value (v : Value)
  | recorder (holds : Bool)

namespace Setting

/-- Whether a setting counts as a yes. -/
def holds : Setting → Bool
  | .value v => v.holds
  | .recorder holds => holds

/-- The value of a setting; a logger has none. -/
def toValue : Setting → Value
  | .value v => v
  | .recorder _ => .null

end Setting

/-- The settings of a caller by name. -/
abbrev Settings := List (String × Setting)

/-- What becomes of a report. -/
inductive Delivery where
  | nowhere
  | console (text : String)
  | journal (report : Report)
  | failed (fault : Fault)

namespace Settings

/-- A setting; null if it is not set. -/
def get (settings : Settings) (name : String) : Setting :=
  (settings.lookup name).getD (.value .null)

/-- The settings with one of them set anew. -/
def set (settings : Settings) (name : String) (setting : Setting) : Settings :=
  match settings with
  | [] => [(name, setting)]
  | (n, s) :: rest =>
    if n == name then (n, setting) :: rest else (n, s) :: set rest name setting

/-- Whether the logger records what it is given. -/
def records (settings : Settings) : Bool :=
  match settings.get "logger" with
  | .recorder _ => true
  | .value _ => false

/-- Hand a report to a logger. A value that records nothing has no way to take it. -/
def handTo (logger : Setting) (report : Report) : Delivery :=
  match logger with
  | .recorder _ => .journal report
  | .value v => .failed (.noAttribute v.kindName report.level.name)

/-- What becomes of a debug message: it counts only if wanted, and goes to the logger, if that
counts as a yes, or to the console. -/
def deliverDebug (settings : Settings) (message : Value) : Delivery :=
  if (settings.get "verbose").holds then
    let text := "[debug] " ++ message.display
    let logger := settings.get "logger"
    if logger.holds then handTo logger (.debug text) else .console (text ++ "\n")
  else .nowhere

/-- What becomes of a warning: it goes to the logger, if there is one, or to the console, unless
warnings are unwanted there. -/
def deliverWarning (settings : Settings) (message : Value) : Delivery :=
  match settings.get "logger" with
  | .value .null =>
    if (settings.get "no_warnings").holds then .nowhere
    else .console ("WARNING: " ++ message.display ++ "\n")
  | logger => handTo logger ⟨.warning, message⟩

/-- What becomes of a report. -/
def deliver (settings : Settings) (report : Report) : Delivery :=
  match report.level with
  | .debug => settings.deliverDebug report.message
  | .warning => settings.deliverWarning report.message

end Settings

end PlayerPage
