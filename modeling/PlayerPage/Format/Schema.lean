import PlayerPage.Form
import PlayerPage.Format.Basic
import PlayerPage.Value.Coerce
import PlayerPage.Value.Find

/-!
The schemas in which a page describes formats: one description, one format.

* `Drop`: why a description gives no format.
* `Format.ofFlatItem`: a form text whose fields hold all there is.
* `Format.ofStreamItem`: a form text that names a quality, and the length only in the address.
* `Format.ofStreamingItem`: an object whose address may stand in a form text with a signature.
-/

namespace PlayerPage

/-- Why a description gives no format. -/
inductive Drop where
  | missing (field : String)
  | notAnObject
  | noLengthInUrl
  | badContentType (value : Value)

namespace Format

/-! ### Fields of form texts -/

/-- The text of a field that must not be missing or empty. -/
def requiredText (form : List (String × String)) (name : String) : Except Drop String :=
  match Form.get? form name with
  | none => .error (.missing name)
  | some s => if s == "" then .error (.missing name) else .ok s

/-- The integer of a field that must hold one. -/
def requiredInt (form : List (String × String)) (name : String) : Except Drop Int :=
  match (Form.get? form name).bind fun s => (Value.str s).toInt? with
  | none => .error (.missing name)
  | some n => .ok n

/-- The text of a field, where an empty one counts as missing. -/
def nonempty? (form : List (String × String)) (name : String) : Option String :=
  (Form.get? form name).filter (· != "")

/-- The text, if it is a content type. -/
def checkedContentType (s : String) : Except Drop String :=
  if (ContentType.parse? s.toList).isSome then .ok s else .error (.badContentType (.str s))

/-- The signature of a form text. -/
def signatureOf (form : List (String × String)) : Option String :=
  nonempty? form "s"

/-- The name of the query parameter for the signature. -/
def signatureKeyOf (form : List (String × String)) : String :=
  (nonempty? form "sp").getD defaultSignatureKey

/-- The format that the fields of a form text describe. -/
def ofFlatFields (form : List (String × String)) : Except Drop Format := do
  let contentType ← checkedContentType (← requiredText form "type")
  let bitrate ← requiredInt form "bitrate"
  let contentLength ← requiredInt form "clen"
  let url ← requiredText form "url"
  pure ⟨contentType, bitrate, contentLength, url, signatureOf form, signatureKeyOf form⟩

/-- The format that a form text describes. -/
def ofFlatItem (item : String) : Except Drop Format :=
  ofFlatFields (Form.fields item.toList)

/-! ### Named qualities -/

/-- The stand-in for the bit rate of a quality that is not known. -/
def unknownQualityBitrate : Int := -1

/-- The stand-ins for the bit rates of the known qualities, all below any real bit rate. -/
def qualityBitrates : List (String × Int) :=
  [("small", -10), ("medium", -5), ("hd720", -4)]

/-- The stand-in for the bit rate of a quality. -/
def qualityBitrate (quality : String) : Int :=
  (qualityBitrates.lookup quality).getD unknownQualityBitrate

/-- The stand-in for the bit rate that a value names. -/
def bitrateOfQuality : Value → Int
  | .str quality => qualityBitrate quality
  | _ => unknownQualityBitrate

/-- The content length that an address names between two marks. -/
def lengthInUrl? (opening closing url : String) : Option Int :=
  (Text.between? opening.toList closing.toList url.toList).bind fun digits =>
    (Value.str (String.ofList digits)).toInt?

/-- The format that the fields of a form text with a named quality describe. -/
def ofStreamFields (form : List (String × String)) : Except Drop Format := do
  let url ← requiredText form "url"
  match lengthInUrl? "clen=" "&" url with
  | none => .error .noLengthInUrl
  | some contentLength =>
    let contentType ← checkedContentType (← requiredText form "type")
    pure ⟨contentType, qualityBitrate ((Form.get? form "quality").getD ""), contentLength, url,
      signatureOf form, signatureKeyOf form⟩

/-- The format that a form text with a named quality describes. -/
def ofStreamItem (item : String) : Except Drop Format :=
  ofStreamFields (Form.fields item.toList)

/-! ### Objects -/

/-- The content type in the member `name`. -/
def memberContentType (ms : Members) (name : String) : Except Drop String :=
  match Members.get ms name with
  | .null => .error (.missing name)
  | .str s => if s == "" then .error (.missing name) else checkedContentType s
  | v => .error (.badContentType v)

/-- The integer in the member `name`. -/
def memberInt (ms : Members) (name : String) : Except Drop Int :=
  match (Members.get ms name).toInt? with
  | none => .error (.missing name)
  | some n => .ok n

/-- The form text with the signature: the first of two members that counts as a yes. -/
def cipherFields (ms : Members) : List (String × String) :=
  let first := Members.get ms "cipher"
  Form.ofValue true (if first.holds then first else Members.get ms "signatureCipher")

/-- The address: of the form text with the signature, or else of the object. -/
def addressOf (ms : Members) (cipher : List (String × String)) : Option String :=
  match Form.get? cipher "url" with
  | some url => some url
  | none => (Members.get ms "url").str?

/-- The format that an object describes. -/
def ofStreamingMembers (ms : Members) : Except Drop Format := do
  let cipher := cipherFields ms
  match (addressOf ms cipher).filter (· != "") with
  | none => .error (.missing "url")
  | some url =>
    let contentType ← memberContentType ms "mimeType"
    let bitrate ← memberInt ms "bitrate"
    let contentLength ← memberInt ms "contentLength"
    pure ⟨contentType, bitrate, contentLength, url, signatureOf cipher, signatureKeyOf cipher⟩

/-- The format that an item of a list describes; only objects describe formats. -/
def ofStreamingItem : Value → Except Drop Format
  | .object ms => ofStreamingMembers ms
  | _ => .error .notAnObject

end Format

end PlayerPage
