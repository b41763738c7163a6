import PlayerPage.Value.Coerce
import PlayerPage.Value.Find

/-!
Templates: texts with places for values.

* `Value.fill`: the template with the value in its places: `%s` for the text of the value, `%r`
  for the text that shows it, `%d` for its integral part, `%%` for a percent sign.
* `Value.fillField`: the template filled with a part of a value, or the default if the part
  counts as a no or is one of the values to be ignored.
* `Value.prefixed`: a value in front of a text, followed by a colon, unless it counts as a no.
-/

namespace PlayerPage.Value

/-- The text of a number in a place for integers. -/
def integerPlace (v : Value) : Except Fault (List Char) :=
  match Number.ofValue? v with
  | none => .error (.templateNumber v.kindName)
  | some _ => v.integer.map fun n => Decimal.Integer.render n

/-- The template with `values` in its places, the first of them being the next; `offset` is the
index of the next character of the template. What is left of the values is given back too. -/
def fillFrom (offset : Nat) (template : List Char) (values : List Value) :
    Except Fault (List Char × List Value) :=
  match template with
  | [] => .ok ([], values)
  | '%' :: '%' :: rest => do
    let (text, left) ← fillFrom (offset + 2) rest values
    pure ('%' :: text, left)
  | ['%'] => .error .templateIncomplete
  | '%' :: letter :: rest =>
    match values with
    | [] => .error .templateTooFew
    | v :: more => do
      let place ←
        if letter == 's' then pure v.display.toList
        else if letter == 'r' then pure v.literalChars
        else if letter == 'd' then v.integerPlace
        else throw (Fault.templateLetter letter (offset + 1))
      let (text, left) ← fillFrom (offset + 2) rest more
      pure (place ++ text, left)
  | c :: rest => do
    let (text, left) ← fillFrom (offset + 1) rest values
    pure (c :: text, left)

/-- Whether a value may be left over by a template: the containers may, as they could be filled
in by name. -/
def mayRemain : Value → Bool
  | .list _ | .object _ | .bytes _ => true
  | _ => false

/-- The template with the value in its places; a tuple fills one place with each item. -/
def fill (template : String) (v : Value) : Except Fault String := do
  let values := match v with | .tuple xs => xs | v => [v]
  let (text, left) ← fillFrom 0 template.toList values
  if !left.isEmpty && !v.mayRemain then throw Fault.templateTooMany
  pure (String.ofList text)

/-- The part of a value that a field is about, in a template, unless the part counts as a no or,
if values to be ignored are given, is one of these. A field is a path or a list of paths. -/
def fillField (v field : Value) (template : String) (ignored : Option Value) (default : Value) :
    Except Fault Value := do
  let part ← v.findAny field.parts none .null
  let ignore :=
    match ignored with
    | none => !part.holds
    | some values => part.among values.parts
  if ignore then pure default
  else Value.str <$> part.fill template

/-- The text of a value between `before` and `after`; nothing for a value that counts as a no. -/
def around (before after : String) (v : Value) : String :=
  if v.holds then before ++ v.display ++ after else ""

end PlayerPage.Value
