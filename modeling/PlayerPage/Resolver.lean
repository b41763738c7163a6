import PlayerPage.Failure
import PlayerPage.Text.Search

/-!
Resolvers of the addresses of manifests: an address can carry a signature that is scrambled, and
only who knows the player's script can say what it stands for.

* `Resolver`: the address that can be fetched, given the player's script and the scrambled one.
* `Resolver.passthrough`: takes addresses as they are and refuses those with a scrambled
  signature.
* `Resolver.refusing`, `Resolver.replacing`, `Resolver.constant`: other ways to resolve.
-/

namespace PlayerPage

/-- The address that can be fetched, given the address of the player's script and that of the
manifest, or the failure to find one. -/
structure Resolver where
  resolve : (script url : Value) → Except Failure Value

namespace Resolver

/-- Whether some `/s/` in an address is followed by a signature, which is not empty. -/
def isSigned : List Char → Bool
  | [] => false
  | c :: rest =>
    (match Text.after? ['/', 's', '/'] (c :: rest) with
      | some (d :: _) => d != '/'
      | _ => false) || isSigned rest

/-- What is said about an address with a scrambled signature that nobody can descramble. -/
def signedText : String :=
  "The manifest url carries a scrambled signature, but no descrambling resolver was given"

/-- An address as it is, unless it carries a scrambled signature. -/
def unscrambled (url : Value) : Except Failure Value :=
  match url with
  | .str s => if isSigned s.toList then .error (.signature signedText) else .ok url
  | v => .error (.fault (.patternText v.kindName))

/-- Takes addresses as they are and refuses those with a scrambled signature. -/
def passthrough : Resolver where
  resolve _ url := unscrambled url

/-- Refuses every address. -/
def refusing (text : String) : Resolver where
  resolve _ _ := .error (.signature text)

/-- Replaces every occurrence of a text in an address. -/
def replacing (old new : String) : Resolver where
  resolve _ url :=
    match url with
    | .str s => .ok (.str (String.ofList (Text.replaceAll old.toList new.toList s.toList)))
    | v => .error (.fault (.noAttribute v.kindName "replace"))

/-- Gives the same answer for every address. -/
def constant (answer : Value) : Resolver where
  resolve _ _ := .ok answer

end Resolver

end PlayerPage
