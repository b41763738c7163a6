import PlayerPage.Format.Basic
import PlayerPage.Proofs.Form.Literal
import PlayerPage.Proofs.Form.Object

/-!
Queries of addresses, and what a signature changes in them.

* `Form.fields_of_pair`: a field of two texts without marks stands for itself.
* `Format.queryOf`, `Format.parametersOf`: the query of an address, and its parameters.
* `Format.signedUrl_query`: with a signature, an address has this one parameter changed and nothing
  else, whatever its query is like.
-/

namespace PlayerPage

open Text

namespace Form

/-- A name and a value without marks are the only field of their text. -/
lemma fields_of_pair {name value : List Char} (hname : ∀ c ∈ ['&', '=', '+', '%'], c ∉ name)
    (hvalue : ∀ c ∈ ['&', '+', '%'], c ∉ value) :
    fields (name ++ '=' :: value) = [(String.ofList name, String.ofList value)] := by
  have hn : ¬HoldsEscape name := not_holdsEscape_of_not_mem (hname _ (by decide))
  have hv : ¬HoldsEscape value := not_holdsEscape_of_not_mem (hvalue _ (by decide))
  refine fields_of_literals (fun c hc => hname c ?_) hn (fun c hc => hvalue c ?_) hv
  · simp only [List.mem_cons] at hc ⊢
    tauto
  · simp only [List.mem_cons] at hc ⊢
    tauto

end Form

/-! ### Addresses with a signature -/

namespace Format

/-- What stands before the query of an address. -/
def baseOf (url : String) : String :=
  String.ofList (cutAtChar '?' url.toList).1

/-- The query of an address: what stands after the first question mark. -/
def queryOf (url : String) : String :=
  String.ofList (cutAtChar '?' url.toList).2

/-- The parameters in the query of an address. -/
def parametersOf (url : String) : Members :=
  Form.toMembers (Form.ofValue false (.str (queryOf url)))

variable {f : Format}

/-- A signature is added at the end of the query. -/
lemma signedUrl_cut (h : '?' ∈ f.url.toList) (signature : String) :
    baseOf (f.signedUrl (some signature)) = baseOf f.url ∧
      queryOf (f.signedUrl (some signature)) =
        addSignature (queryOf f.url) f.signatureKey signature := by
  obtain ⟨base, query, hurl, hbase⟩ := List.eq_append_cons_of_mem h
  let added := '&' :: (f.signatureKey.toList ++ '=' :: signature.toList)
  have hsigned : (f.signedUrl (some signature)).toList = base ++ '?' :: (query ++ added) := by
    simp [signedUrl, addSignature, hurl, added]
  have hcut : cutAtChar '?' f.url.toList = (base, query) := by
    rw [hurl, cutAtChar_append hbase]
  have hcut' : cutAtChar '?' (f.signedUrl (some signature)).toList = (base, query ++ added) := by
    rw [hsigned, cutAtChar_append hbase]
  constructor
  · rw [baseOf, baseOf, hcut, hcut']
  · rw [queryOf, queryOf, hcut, hcut', addSignature, String.ext_iff]
    simp [added]

/-- **A signature changes one parameter.** Let an address have a query, which may be any text, and
let the name for the signature have none of the marks `&`, `=`, `+` and `%` in it, and the signature
none but `=`. With the signature added, what stands before the query is unchanged, and the
parameters in the query are the former ones with the signature put under its name: it is found
there, and every other parameter keeps its value. -/
theorem signedUrl_query (hurl : '?' ∈ f.url.toList)
    (hkey : ∀ c ∈ ['&', '=', '+', '%'], c ∉ f.signatureKey.toList) {signature : String}
    (hsignature : ∀ c ∈ ['&', '+', '%'], c ∉ signature.toList) :
    let signed := f.signedUrl (some signature)
    baseOf signed = baseOf f.url ∧
      parametersOf signed = (parametersOf f.url).put f.signatureKey (.str signature) ∧
      Members.get? (parametersOf signed) f.signatureKey = some (.str signature) ∧
      ∀ name, name ≠ f.signatureKey →
        Members.get? (parametersOf signed) name = Members.get? (parametersOf f.url) name := by
  intro signed
  obtain ⟨hbase, hquery⟩ := signedUrl_cut hurl signature
  have hfields : Form.fields (queryOf signed).toList =
      Form.fields (queryOf f.url).toList ++ [(f.signatureKey, signature)] := by
    have hadded : (queryOf signed).toList = (queryOf f.url).toList ++
        '&' :: (f.signatureKey.toList ++ '=' :: signature.toList) := by
      rw [hquery]
      simp [addSignature]
    rw [hadded, Form.fields_append, Form.fields_of_pair hkey hsignature, String.ofList_toList,
      String.ofList_toList]
  have hparameters : parametersOf signed =
      (parametersOf f.url).put f.signatureKey (.str signature) :=
    (congrArg Form.toMembers hfields).trans (Form.toMembers_concat _ _ _)
  refine ⟨hbase, hparameters, ?_, fun name hname => ?_⟩
  · rw [hparameters, Members.get?_put_self]
  · rw [hparameters, Members.get?_put_of_ne _ _ hname]

/-- In a query with the name twice, a broken escape, empty pieces and a further question mark, the
signature takes the place of the former one. -/
theorem signedUrl_query_of_malformed :
    let f : Format := ⟨"video/mp4", 7, 10, "http://x/a?b=%zz&sp=1&&=é?&sp=2&c&", none, "sp"⟩
    let signed := f.signedUrl (some "=x?é")
    signed = "http://x/a?b=%zz&sp=1&&=é?&sp=2&c&&sp==x?é" ∧ baseOf signed = "http://x/a" ∧
      parametersOf f.url =
        [("b", .str "%zz"), ("sp", .str "2"), ("", .str "é?"), ("c", .str "")] ∧
      parametersOf signed =
        [("b", .str "%zz"), ("sp", .str "=x?é"), ("", .str "é?"), ("c", .str "")] := by
  intro f signed
  have hfields : Form.fields (queryOf f.url).toList =
      [("b", "%zz"), ("sp", "1"), ("", "é?"), ("sp", "2"), ("c", "")] := by
    decide +kernel
  have hparameters : parametersOf f.url =
      [("b", .str "%zz"), ("sp", .str "2"), ("", .str "é?"), ("c", .str "")] :=
    congrArg Form.toMembers hfields
  have hkey : ∀ c ∈ ['&', '=', '+', '%'], c ∉ "sp".toList := by simp
  have hsignature : ∀ c ∈ ['&', '+', '%'], c ∉ "=x?é".toList := by simp
  obtain ⟨hbase, hsigned, -⟩ := signedUrl_query (f := f) (by decide) hkey hsignature
  refine ⟨by decide, ?_, hparameters, ?_⟩
  · rw [hbase]
    decide
  · rw [hsigned, hparameters]
    rfl

end Format

end PlayerPage
