import PlayerPage.Xml.Flaw

/-!
Namespaces: what the prefixes of names stand for.

* `Scope`, `Scope.bind`: the prefixes that are bound at a place.
* `Scope.expand?`: a name with its namespace in braces in place of its prefix.
-/

namespace PlayerPage.Xml

/-- The prefixes that are bound at a place, the innermost first; the empty one is bound to the
namespace of names without a prefix, or to none. -/
abbrev Scope := List (List Char × Option (List Char))

namespace Scope

/-- The namespace of the prefix `xml`. -/
def xmlNamespace : List Char :=
  "http://www.w3.org/XML/1998/namespace".toList

/-- The namespace of the prefix `xmlns`. -/
def xmlnsNamespace : List Char :=
  "http://www.w3.org/2000/xmlns/".toList

/-- The prefixes that are bound without a declaration. -/
def initial : Scope :=
  [(['x', 'm', 'l'], some xmlNamespace)]

/-- The namespace that a prefix is bound to. -/
def namespace? (scope : Scope) (label : List Char) : Option (List Char) :=
  (scope.lookup label).getD none

/-- The prefix and the local part of a name; without a colon the prefix is empty. -/
def split (name : List Char) : List Char × List Char :=
  match name.span (· != ':') with
  | (label, ':' :: part) => (label, part)
  | (name, _) => ([], name)

/-- The prefix that an attribute of this name binds, if it is one that binds prefixes. -/
def boundPrefix? (name : List Char) : Option (List Char) :=
  match split name with
  | ([], ['x', 'm', 'l', 'n', 's']) => some []
  | (['x', 'm', 'l', 'n', 's'], label) => some label
  | _ => none

/-- The prefixes that are bound where `label` is bound to `uri`. -/
def bind (scope : Scope) (label uri : List Char) : Except Reason Scope :=
  if uri.isEmpty && !label.isEmpty then .error .undeclaredPrefix
  else if label == ['x', 'm', 'l', 'n', 's'] then .error .reservedXmlns
  else if uri.contains '}' then .error .syntaxError
  else if label == ['x', 'm', 'l'] && uri != xmlNamespace then .error .reservedXml
  else if label != ['x', 'm', 'l'] && (uri == xmlNamespace || uri == xmlnsNamespace) then
    .error .reservedNamespace
  else .ok ((label, if uri.isEmpty then none else some uri) :: scope)

/-- A name in a namespace: the namespace stands in braces before it. -/
def qualify (uri name : List Char) : List Char :=
  '{' :: (uri ++ '}' :: name)

/-- A name with its namespace in place of its prefix; a name without a prefix is in the namespace
that the empty prefix is bound to, if `usesDefault`. None if the prefix is not bound. -/
def expand? (scope : Scope) (usesDefault : Bool) (name : List Char) : Option (List Char) :=
  match split name with
  | ([], _) =>
    match if usesDefault then scope.namespace? [] else none with
    | some uri => some (qualify uri name)
    | none => some name
  | (label, part) => (scope.namespace? label).map fun uri => qualify uri part

end Scope

end PlayerPage.Xml
