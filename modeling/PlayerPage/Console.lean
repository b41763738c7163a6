import PlayerPage.Fault
import PlayerPage.Text.Charset

/-!
Writing texts to the console or another place, which may take texts or bytes.

* `Console.preferredCharset`: the name of the character set that the surroundings prefer, if texts
  can be written in it.
* `Console.Sink`: a place to write to.
* `Console.write`: what a sink takes when a text is written to it.
-/

namespace PlayerPage.Console

open Text

/-- The character set that is preferred when nothing else is said. -/
def fallbackCharset : String := "UTF-8"

/-- The name of the character set that the surroundings prefer, if texts can be written in it, or
else the fallback. -/
def preferredCharset (preferred : Value) : Value :=
  match preferred with
  | .str name =>
    match Charset.ofName? name with
    | some charset => if charset.isText then preferred else .str fallbackCharset
    | none => .str fallbackCharset
  | _ => .str fallbackCharset

/-- A place to write to. -/
inductive Sink where
  /-- No place at all. -/
  | missing
  /-- A place that takes texts. -/
  | texts
  /-- A place that takes bytes; it may name the character set for texts. -/
  | bytes (charset : Option String)

/-- What a sink takes. -/
inductive Written where
  | nothing
  | text (s : String)
  | bytes (b : List UInt8)
  deriving DecidableEq, Repr

/-- The bytes of a text in the character set of a name, without the characters that it lacks. -/
def encodeIn (charset : Value) (s : String) : Except Fault (List UInt8) :=
  match charset with
  | .str name =>
    match Charset.ofName? name with
    | none => .error (.unknownEncoding name)
    | some .transform => .error (.notTextEncoding name "encode")
    | some charset => .ok (charset.encode s.toList)
  | v => .error (.charsetName v.kindName)

/-- What a sink takes when a value, which has to be a text, is written to it; a named character
set counts more than the one that the sink names. -/
def write (sink : Sink) (charset s : Value) : Except Fault Written :=
  match s with
  | .str s =>
    match sink with
    | .missing => .ok .nothing
    | .texts => .ok (.text s)
    | .bytes own =>
      (encodeIn (charset.orElse ((Value.ofOption own).orElse (.str fallbackCharset))) s).map
        .bytes
  | _ => .error .notText

end PlayerPage.Console
