import PlayerPage.Value.Find

/-!
The fields of the player's arguments that hold formats.

* `FormatSource.all`: the fields, in the order in which they are tried.
* `FormatSource.value?`: what a field holds, if it is one in which formats can stand.
* `FormatSource.present`: the fields that are there, each with what it holds.
-/

namespace PlayerPage

/-- The fields of the player's arguments that hold formats. -/
inductive FormatSource where
  | adaptive
  | playerResponse
  | manifest
  | streamMap
  deriving DecidableEq, Repr

namespace FormatSource

/-- The fields, in the order in which they are tried. -/
def all : List FormatSource :=
  [adaptive, playerResponse, manifest, streamMap]

/-- The name of a field. -/
def name : FormatSource → String
  | adaptive => "adaptive_fmts"
  | playerResponse => "player_response"
  | manifest => "dashmpd"
  | streamMap => "url_encoded_fmt_stream_map"

/-- The field of a name. -/
def ofName? (name : String) : Option FormatSource :=
  all.find? (·.name == name)

/-- What a field holds, if this can hold formats: a text, or the decoded response of the
player. -/
def value? (source : FormatSource) (arguments : Value) : Option Value :=
  match source, arguments.member source.name with
  | _, .str s => some (.str s)
  | playerResponse, .object ms => some (.object ms)
  | _, _ => none

/-- The fields that are there, each with what it holds. -/
def present (arguments : Value) : List (FormatSource × Value) :=
  all.filterMap fun source => (source.value? arguments).map fun v => (source, v)

end FormatSource

end PlayerPage
