/-!
Documents as trees.

* `Event`: what a reader of a document meets: the start and the end of elements, and text.
* `Element`, `Node`: an element with its attributes and its content of texts and elements.
* `Element.ofEvents?`: the tree of the events of a document.
* `Element.leadingText?`, `Element.elements`: the text before the first inner element, and all
  elements of a tree in document order.
* `localName`: a name without its namespace; `Element.named`: the elements of a local name.
-/

namespace PlayerPage.Xml

/-- What a reader of a document meets. -/
inductive Event where
  | start (tag : String) (attributes : List (String × String))
  | finish
  | text (s : List Char)
  deriving DecidableEq, Repr

mutual

/-- An element: its name, with the namespace in braces before it, its attributes, which have
different names, and its content. -/
inductive Element where
  | mk (tag : String) (attributes : List (String × String)) (content : List Node)

/-- A part of the content of an element. Two texts do not follow each other. -/
inductive Node where
  | text (s : String)
  | element (e : Element)

end

namespace Element

/-- The name of an element. -/
def tag : Element → String
  | .mk tag _ _ => tag

/-- The attributes of an element. -/
def attributes : Element → List (String × String)
  | .mk _ attributes _ => attributes

/-- The content of an element. -/
def content : Element → List Node
  | .mk _ _ content => content

/-- The value of an attribute. -/
def get? (e : Element) (name : String) : Option String :=
  e.attributes.lookup name

end Element

/-- The text at the front of content. -/
def Node.leadingText? : List Node → Option String
  | .text s :: _ => some s
  | _ => none

/-- The text of an element before the first element in it. -/
def Element.leadingText? (e : Element) : Option String :=
  Node.leadingText? e.content

/-- The elements of content, each with the text that follows it. -/
def Node.children : List Node → List (Element × Option String)
  | [] => []
  | .text _ :: rest => children rest
  | .element e :: rest => (e, leadingText? rest) :: children rest

mutual

/-- An element and all elements in it, in document order. -/
def Element.elements : Element → List Element
  | .mk tag attributes content => .mk tag attributes content :: Node.elements content

/-- All elements in content, in document order. -/
def Node.elements : List Node → List Element
  | [] => []
  | .text _ :: rest => Node.elements rest
  | .element e :: rest => e.elements ++ Node.elements rest

end

/-! ### Local names -/

/-- A name without the namespace in braces before it. -/
def localName (tag : String) : String :=
  String.ofList (tag.toList.reverse.takeWhile (· != '\x7d')).reverse

/-- The elements of a tree with a local name, in document order. -/
def Element.named (e : Element) (name : String) : List Element :=
  e.elements.filter fun inner => localName inner.tag == name

/-! ### Trees from events -/

/-- An element whose end has not been met; its content so far is in reverse order. -/
structure OpenElement where
  tag : String
  attributes : List (String × String)
  content : List Node

namespace OpenElement

/-- The element with one more text. -/
def addText (e : OpenElement) (s : List Char) : OpenElement :=
  match s, e.content with
  | [], _ => e
  | s, .text t :: rest => { e with content := .text (t ++ String.ofList s) :: rest }
  | s, content => { e with content := .text (String.ofList s) :: content }

/-- The element with one more element in it. -/
def addElement (e : OpenElement) (inner : Element) : OpenElement :=
  { e with content := .element inner :: e.content }

/-- The element at its end. -/
def close (e : OpenElement) : Element :=
  .mk e.tag e.attributes e.content.reverse

end OpenElement

/-- The first element that ends among the events, if it is in none of the open elements. -/
def Element.ofEventsIn? (opened : List OpenElement) : List Event → Option Element
  | [] => none
  | .start tag attributes :: rest => ofEventsIn? (⟨tag, attributes, []⟩ :: opened) rest
  | .text s :: rest =>
    match opened with
    | [] => ofEventsIn? [] rest
    | e :: outer => ofEventsIn? (e.addText s :: outer) rest
  | .finish :: rest =>
    match opened with
    | [] => none
    | [e] => some e.close
    | e :: outer :: more => ofEventsIn? (outer.addElement e.close :: more) rest

/-- The tree of the events of a document. -/
def Element.ofEvents? (events : List Event) : Option Element :=
  ofEventsIn? [] events

end PlayerPage.Xml
