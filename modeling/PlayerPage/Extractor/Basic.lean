import PlayerPage.Session

/-!
Extractors: who reads a page, for which caller.

* `Extractor`: a name, what the caller set, and the settings that its reports go by.
* `Extractor.setting`: what the caller set under a name, or a default.
* `Extractor.report`: a report in the name of the extractor, about a video.
* `Extractor.tell`, `Extractor.tellAll`, `Extractor.debug`, `Extractor.warn`: reports handed on.
-/

namespace PlayerPage

/-- Who reads a page, and the settings of the caller. -/
structure Extractor where
  name : Option String
  settings : Settings
  /-- The settings that reports go by. -/
  reporting : Settings

namespace Extractor

/-- The extractor of a name, for a caller with these settings. -/
def ofSettings (name : Option String) (settings : Settings) : Extractor :=
  ⟨name, settings, settings⟩

/-- The name in messages: a value, as there may be none. -/
def nameValue (e : Extractor) : Value :=
  .ofOption e.name

/-- The extractor after the caller set something anew. Reports go by what is set later only if
something was set from the start. -/
def set (e : Extractor) (name : String) (setting : Setting) : Extractor where
  name := e.name
  settings := e.settings.set name setting
  reporting := if e.reporting.isEmpty then [] else e.reporting.set name setting

/-- What the caller set under a name, or a default. -/
def setting (e : Extractor) (name : String) (default : Value) : Value :=
  match e.settings.lookup name with
  | some setting => setting.toValue
  | none => default

/-- What the caller set under a key, which should be a name, or a default. -/
def settingAt (e : Extractor) (key default : Value) : Except Fault Value :=
  match key with
  | .str name => .ok (e.setting name default)
  | key =>
    match key.unhashable? with
    | some kind => .error (.unhashable kind)
    | none => .ok default

/-- The beginning of every report: the name of the extractor and the video. -/
def heading (e : Extractor) (videoId : Value) : String :=
  "[" ++ e.nameValue.display ++ "] " ++ videoId.around "" ": "

/-- A report in the name of the extractor, about a video. -/
def report (e : Extractor) (videoId : Value) (r : Report) : Report :=
  ⟨r.level, .str (e.heading videoId ++ r.message.display)⟩

/-- Hand on a report in the name of the extractor. -/
def tell (e : Extractor) (videoId : Value) (r : Report) : Run Unit :=
  Run.tell e.reporting (e.report videoId r)

/-- Hand on reports in the name of the extractor, in order. -/
def tellAll (e : Extractor) (videoId : Value) : List Report → Run Unit
  | [] => pure ()
  | r :: rest => do
    e.tell videoId r
    e.tellAll videoId rest

end Extractor

end PlayerPage
