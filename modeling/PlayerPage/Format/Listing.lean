import PlayerPage.Format.Schema
import PlayerPage.Format.Source
import PlayerPage.Report
import PlayerPage.Text.Search

/-!
Lists of descriptions of formats: every description that gives a format contributes it, whatever
the others are like, and every one that gives none is reported.

* `Listing`: the formats of a list and the reports about the other descriptions.
* `Listing.build`: the listing of a list of descriptions, given what one of them gives.
* `Listing.ofFlat`, `Listing.ofStreamMap`, `Listing.ofStreaming`: the three schemas.
-/

namespace PlayerPage

/-- The formats of a list of descriptions, and the reports about those that give none. -/
structure Listing where
  formats : List Format
  reports : List Report

namespace Listing

/-- The longest text of a description in a report. -/
def shownLength : Int := 200

/-- The report about a description that gives no format. -/
def dropReport (source : String) (item : Value) (drop : Drop) : Report :=
  match drop with
  | .badContentType v =>
    .debug ("Failed to parse " ++ source ++ " format, skipping: " ++
      (Fault.badContentType v).literal)
  | .missing field => skipped ("missing " ++ field)
  | .notAnObject => skipped "not an object"
  | .noLengthInUrl => skipped "no content length in url"
where
  /-- The report that a description lacks what a format needs. -/
  skipped (reason : String) : Report :=
    .debug ("Skipping " ++ source ++ " format (" ++ reason ++ "): " ++
      String.ofList (Text.shorten shownLength item.display.toList))

/-- The report that no description of a list gives a format. -/
def allDropped (source : String) (count : Nat) : Report :=
  .warning ("All " ++ (Value.int count).display ++ " " ++ source ++
    " formats either failed to load or were skipped due to missing fields")

/-- The format that a description gives. -/
def format? (build : Value → Except Drop Format) (item : Value) : Option Format :=
  (build item).toOption

/-- The report about a description, if it gives no format. -/
def report? (source : String) (build : Value → Except Drop Format) (item : Value) :
    Option Report :=
  match build item with
  | .ok _ => none
  | .error drop => some (dropReport source item drop)

/-- The listing of a list of descriptions, each of which gives what `build` says. -/
def build (source : String) (build : Value → Except Drop Format) (items : List Value) : Listing :=
  let formats := items.filterMap (format? build)
  let drops := items.filterMap (report? source build)
  ⟨formats,
    if formats.isEmpty && !drops.isEmpty then drops ++ [allDropped source items.length]
    else drops⟩

/-! ### The schemas -/

/-- What stands between the commas of a text; nothing is no item. -/
def flatItems (s : String) : List String :=
  ((Text.pieces ',' s.toList).filter fun piece => !piece.isEmpty).map String.ofList

/-- The items of a value that is a text; no other value has any. -/
def flatItemsOf : Value → List String
  | .str s => flatItems s
  | _ => []

/-- What a rule for texts makes of a value. -/
def ofText (rule : String → Except Drop Format) : Value → Except Drop Format
  | .str s => rule s
  | _ => .error .notAnObject

/-- The listing of form texts with commas between them. -/
def ofTexts (source : String) (rule : String → Except Drop Format) (v : Value) : Listing :=
  build source (ofText rule) ((flatItemsOf v).map .str)

/-- The listing of form texts that hold all there is. -/
def ofFlat (v : Value) : Listing :=
  ofTexts FormatSource.adaptive.name Format.ofFlatItem v

/-- The listing of form texts that name a quality. -/
def ofStreamMap (v : Value) : Listing :=
  ofTexts FormatSource.streamMap.name Format.ofStreamItem v

/-- The listing of a list of objects; no other value describes any formats. -/
def ofStreaming : Value → Listing
  | .list items => build "streamingData" Format.ofStreamingItem items
  | _ => ⟨[], []⟩

end Listing

end PlayerPage
