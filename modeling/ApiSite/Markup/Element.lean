import ApiSite.Text.Basic

/-!
Element trees: the parsed form of a documentation text, and the input of the Markdown writer.
-/

set_option autoImplicit false

namespace ApiSite.Markup

/-- Attributes by name, in the order in which they were first set. One that was only named has no
value. -/
abbrev Attrs := List (Text × Option Text)

/-- A markup element. `text` stands before the first child and `tail` after the element's end, so
that the texts of a tree read in document order are the text it marks up. -/
inductive Element where
  | mk (tag : Text) (attrs : Attrs) (text : Option Text) (children : List Element)
      (tail : Option Text)
  deriving Inhabited

namespace Element

def tag : Element → Text
  | mk t _ _ _ _ => t

def attrs : Element → Attrs
  | mk _ a _ _ _ => a

def text : Element → Option Text
  | mk _ _ t _ _ => t

def children : Element → List Element
  | mk _ _ _ c _ => c

def tail : Element → Option Text
  | mk _ _ _ _ t => t

/-- An element with a tag and nothing else. -/
def bare (tag : Text) : Element := mk tag [] none [] none

/-- An element that holds a text. -/
def ofText (tag text : Text) : Element := mk tag [] (some text) [] none

def setText (e : Element) (t : Option Text) : Element := mk e.tag e.attrs t e.children e.tail

def setTail (e : Element) (t : Option Text) : Element := mk e.tag e.attrs e.text e.children t

def setChildren (e : Element) (cs : List Element) : Element := mk e.tag e.attrs e.text cs e.tail

def setAttrs (e : Element) (as : Attrs) : Element := mk e.tag as e.text e.children e.tail

/-- Adds a child after the others. -/
def append (e child : Element) : Element := e.setChildren (e.children ++ [child])

/-- Replaces the last child by what `f` makes of it. -/
def modifyLast (f : Element → Element) (e : Element) : Element :=
  e.setChildren (match e.children.reverse with
    | [] => []
    | last :: before => (f last :: before).reverse)

/-- The last child. -/
def last? (e : Element) : Option Element := e.children.getLast?

/-- The value of an attribute. -/
def lookup (as : Attrs) (name : Text) : Option Text := (as.find? (·.1 == name)).bind (·.2)

/-- Whether attributes name one without giving it a value. -/
def isValueless (as : Attrs) (name : Text) : Bool := as.any fun a => a.1 == name && a.2.isNone

/-- Sets an attribute, in its place if it is there and at the end otherwise. -/
def assign (name : Text) (value : Option Text) : Attrs → Attrs
  | [] => [(name, value)]
  | (n, v) :: as => if n == name then (n, value) :: as else (n, v) :: assign name value as

/-- The value of an attribute. -/
def get? (e : Element) (name : Text) : Option Text := lookup e.attrs name

/-- Sets an attribute. -/
def set (e : Element) (name value : Text) : Element :=
  e.setAttrs (assign name (some value) e.attrs)

mutual

/-- The texts inside an element in document order, its own tail left out. -/
def innerText : Element → Text
  | mk _ _ text children _ => text.getD [] ++ innerTexts children

/-- The texts of elements in document order, with their tails. -/
def innerTexts : List Element → Text
  | [] => []
  | mk t a text children tail :: rest =>
    innerText (mk t a text children tail) ++ tail.getD [] ++ innerTexts rest

end

end Element

/-- The tags of headings. -/
def headingTags : List Text := ["h1", "h2", "h3", "h4", "h5", "h6"]

/-- The level of a heading tag. -/
def headingLevel? (tag : Text) : Option Nat :=
  match tag with
  | ['h', c] => if '1' ≤ c ∧ c ≤ '6' then some (c.toNat - '0'.toNat) else none
  | _ => none

/-- Elements whose source is a block of its own: the grammar leaves their inside alone, and
attribute lists on them stand at the end of their text. -/
def blockTags : List Text := Text.ofStrings
  ["address", "article", "aside", "blockquote", "details", "div", "dl", "fieldset", "figcaption",
    "figure", "footer", "form", "h1", "h2", "h3", "h4", "h5", "h6", "header", "hgroup", "hr",
    "main", "menu", "nav", "ol", "p", "pre", "search", "section", "table", "ul", "canvas",
    "colgroup", "dd", "body", "dt", "group", "html", "iframe", "li", "legend", "math", "map",
    "noscript", "output", "object", "option", "progress", "script", "style", "summary", "tbody",
    "td", "textarea", "tfoot", "th", "thead", "tr", "video", "center"]

end ApiSite.Markup
