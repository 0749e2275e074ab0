import ApiSite.Markup.Element
import ApiSite.Text.WordChar

/-!
What the writer takes an element for: its tag, and for an alert its class, decide.
-/

set_option autoImplicit false

namespace ApiSite.Markup.Writer

/-- The kinds of elements that are written in a way of their own. -/
inductive Kind where
  | heading (level : Nat)
  | paragraph
  | quotation
  | preformatted
  | code
  | emphasis
  | strong
  | deletion
  | link
  | image
  | lineBreak
  | rule
  | bulletList
  | numberedList
  | item
  | table
  | tableSection
  | tableRow
  | headerCell
  | bodyCell
  | alert
  /-- Any other element, written as a tag. -/
  | other
  deriving DecidableEq, Repr

/-- The class of alerts. -/
abbrev alertClass : Text := "markdown-alert"

/-- The kind of an element with the given tag and attributes. -/
def Kind.of (tag : Text) (attrs : Attrs) : Kind :=
  match headingLevel? tag with
  | some level => .heading level
  | none =>
    if tag == "p" then .paragraph
    else if tag == "blockquote" then .quotation
    else if tag == "pre" then .preformatted
    else if tag == "code" then .code
    else if tag == "em" then .emphasis
    else if tag == "strong" || tag == "b" then .strong
    else if tag == "del" then .deletion
    else if tag == "a" then .link
    else if tag == "img" then .image
    else if tag == "br" then .lineBreak
    else if tag == "hr" then .rule
    else if tag == "ul" then .bulletList
    else if tag == "ol" then .numberedList
    else if tag == "li" then .item
    else if tag == "table" then .table
    else if tag == "thead" || tag == "tbody" then .tableSection
    else if tag == "tr" then .tableRow
    else if tag == "th" then .headerCell
    else if tag == "td" then .bodyCell
    else if tag == "div" && Text.occursIn alertClass ((Element.lookup attrs "class").getD []) then
      .alert
    else .other

/-- The word after `markdown-alert-` where it first stands before one. -/
def alertName? : Text → Option Text
  | [] => none
  | c :: t =>
    match Text.after? (alertClass ++ ['-']) (c :: t) with
    | some rest =>
      let name := rest.takeWhile Text.isWord
      if name.isEmpty then alertName? t else some name
    | none => alertName? t

/-- The container in which an alert with the given class is shown. -/
def alertContainer (cssClass : Text) : Text :=
  match alertName? cssClass with
  | none => "info"
  | some name =>
    if name == "tip" then "tip"
    else if name == "caution" then "warning"
    else if name == "warning" then "danger"
    else "info"

end ApiSite.Markup.Writer
