import PlayerPage.Extractor.Basic
import PlayerPage.Format.Listing

/-!
Listings as an extractor gives them to its caller: the reports first, then the formats.
-/

namespace PlayerPage

/-- The formats of a listing, after an extractor, if there is one, handed on its reports. -/
def Listing.deliver (listing : Listing) (e : Option Extractor) (videoId : Value) :
    Run (List Format) := do
  match e with
  | some e => e.tellAll videoId listing.reports
  | none => pure ()
  pure listing.formats

end PlayerPage
