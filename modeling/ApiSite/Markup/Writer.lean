import ApiSite.Count
import ApiSite.Text.Blank
import ApiSite.Text.WordChar
import ApiSite.Text.LetterCase
import ApiSite.Markup.Mark
import ApiSite.Markup.AngleBrackets
import ApiSite.Markup.Writer.Output
import ApiSite.Markup.Writer.Kind
import ApiSite.Markup.Inline.Rule

/-!
Writing an element tree as Markdown that is safe in a page. A walk over the tree opens and closes
each element; what an element looks like depends on the elements around it, so the walk carries the
tags that are open, the widths of the list markers, the depth of quotations, and the table at hand.
-/

set_option autoImplicit false

namespace ApiSite.Markup.Writer

/-- What a project chooses: the tags that are written as they are, in lower case, and the language
of code that names none. -/
structure Style where
  safeTags : List Text
  language : Text

/-- A style with the given tags in any letter case. -/
def Style.of (safeTags : List Text) (language : Text) : Style := ⟨safeTags.map Text.lower, language⟩

/-- Why a tree cannot be written. -/
inductive Error where
  /-- The first number of a list is written in digits that have no place in decimal numbers. -/
  | listStart (start : Text)
  /-- An attribute that has to be written, or to be looked into, has no value. -/
  | valueless
  deriving DecidableEq, Repr

/-- Where the walk is: the tags of the elements around the current one, the innermost first, and
whether it is the first in its parent. -/
structure Place where
  ancestors : List Text
  isFirst : Bool

/-- Whether an element with the given tag is around. -/
def Place.isInside (p : Place) (tag : Text) : Bool := p.ancestors.contains tag

/-- What the walk carries along. -/
structure State where
  output : Output := {}
  /-- The numbers of the latest items of the open numbered lists, the innermost first. -/
  ordinals : List Int := []
  /-- The widths of the markers of the open items, the innermost first. -/
  itemWidths : List Nat := []
  quoteDepth : Nat := 0
  inLink : Bool := false
  inAlert : Bool := false
  /-- Whether the title paragraph of the alert has been passed over. -/
  titleSkipped : Bool := false
  /-- The finished rows of the table at hand. -/
  rows : List (List Text) := []
  /-- The finished cells of the row at hand. -/
  row : Option (List Text) := none
  /-- The text of the cell at hand. -/
  cell : Option Text := none
  /-- What the header cells say about alignment. -/
  alignments : List (Option Text) := []

namespace State

/-- Writes to the page. -/
def write (t : Text) (s : State) : State := { s with output := s.output.write t }

/-- Writes to the cell at hand, or else to the page. -/
def put (t : Text) (s : State) : State :=
  match s.cell with
  | some cell => { s with cell := some (cell ++ t) }
  | none => s.write t

/-- Leaves a blank line on the page. -/
def blankLine (s : State) : State := { s with output := s.output.blankLine }

/-- Ends the line on the page. -/
def endLine (s : State) : State := { s with output := s.output.endLine }

/-- The spaces under the markers of the open items. -/
def indent (s : State) : Text := Text.spaces (total s.itemWidths)

/-- The marks of the open quotations. -/
def quoteMarks (s : State) : Text := Text.times s.quoteDepth "> "

end State

/-- The value of an attribute with escaped characters as themselves; empty if there is none. -/
def attrText (attrs : Attrs) (name : Text) : Text :=
  Mark.restoreEscapes ((Element.lookup attrs name).getD [])

/-- A title in quotes after a space, if there is a title. -/
def titleText (attrs : Attrs) : Text :=
  match Element.lookup attrs "title" with
  | some _ => " \"" ++ attrText attrs "title" ++ ['"']
  | none => []

/-- Whether an element is written without an end tag. -/
def isVoid (text : Option Text) (children : List Element) : Bool :=
  children.isEmpty && text.isNone

/-- An attribute's value within quotation marks. -/
def escapeAttr (t : Text) : Text :=
  Text.escapeWith (fun c =>
    if c = '&' then "&amp;" else if c = '"' then "&quot;" else if c = '<' then "&lt;"
    else if c = '>' then "&gt;" else [c]) t

/-- Attributes as they stand in a start tag, their values written by `value`. -/
def attributesText (value : Text → Text) (attrs : Attrs) : Text :=
  attrs.flatMap fun a => ' ' :: a.1 ++ "=\"" ++ value (Mark.restoreEscapes (a.2.getD [])) ++ ['"']

/-- A start tag. -/
def openTag (tag : Text) (attrs : Attrs) (void : Bool) : Text :=
  let ending : Text := if void then " />" else ">"
  '<' :: tag ++ attributesText escapeAttr attrs ++ ending

/-- A start tag that is shown and not obeyed. -/
def shownOpenTag (tag : Text) (attrs : Attrs) (void : Bool) : Text :=
  let ending : Text := if void then " /&gt;" else "&gt;"
  "&lt;" ++ tag ++ attributesText id attrs ++ ending

/-- Elements that stand on lines of their own when written as tags. -/
def lineTags : List Text := Text.ofStrings
  ["div", "section", "article", "aside", "header", "footer", "nav", "main", "figure", "figcaption",
    "details", "summary", "dialog", "address"]

/-- Raw markup by its number, without line feeds at its end. -/
def rawText (rawHtml : List Text) (n : Nat) : Text :=
  Text.trimEnd (· == '\n') ((rawHtml[n]?).getD [])

/-- A text of the tree as it is written: raw markup in its place, and angle brackets escaped. In a
link only the raw markup is escaped, since the text of a link already is. -/
def plainText (style : Style) (rawHtml : List Text) (inLink : Bool) (t : Text) : Text :=
  Mark.restoreBackslashes
    (if inLink then
      Mark.substitute "wzxhzdk:" (fun n =>
        AngleBrackets.escape style.safeTags (rawText rawHtml n)) t
    else AngleBrackets.escape style.safeTags (Mark.substitute "wzxhzdk:" (rawText rawHtml) t))

/-- Writes a text of the tree. -/
def writeText (style : Style) (rawHtml : List Text) (t : Text) (s : State) : State :=
  s.put (plainText style rawHtml s.inLink t)

/-- A code span: with two backticks and spaces on each side where the code holds a backtick. -/
def codeSpan (code : Text) : Text :=
  if code.contains '\x60' then "\x60\x60 " ++ code ++ " \x60\x60" else '\x60' :: code ++ ['\x60']

/-- The language that a class of a code element names. -/
def languageOf (style : Style) (attrs : Attrs) : Text :=
  match (Text.words ((Element.lookup attrs "class").getD [])).findSome?
      (Text.after? "language-") with
  | some language => language
  | none => style.language

/-- The lines of a fenced block. -/
def writeFence (language code : Text) (s : State) : State :=
  let code := Text.trimEnd (· == '\n') code
  let indent := s.indent
  let code := if indent.isEmpty then code
    else Text.unlines ((Text.lines code).map fun line =>
      if line.isEmpty then line else indent ++ line)
  ((s.write (indent ++ "\x60\x60\x60" ++ language ++ "\n")).write code).write
    ("\n" ++ indent ++ "\x60\x60\x60")

/-- The single code element that a preformatted block consists of. -/
def soleCode? (children : List Element) : Option Element :=
  match children with
  | [e] => if e.tag == "code" then some e else none
  | _ => none

/-- A cell of a written table. -/
def cellText (t : Text) : Text := Text.replace "|" "\\|" t

/-- A row of a written table. -/
def rowText (cells : List Text) : Text :=
  "| " ++ Text.join " | " (cells.map cellText) ++ " |\n"

/-- What a separator row says for a column. -/
def alignmentText (alignment : Option Text) : Text :=
  let alignment := alignment.getD []
  if Text.occursIn "center" alignment then ":---:|"
  else if Text.occursIn "right" alignment then "---:|"
  else if Text.occursIn "left" alignment then ":---|"
  else "---|"

/-- Writes the table at hand, all rows as long as its first. -/
def writeTable (s : State) : State :=
  match s.rows with
  | [] => s
  | header :: body =>
    let columns := List.range header.length
    let separator := '|' :: columns.flatMap (fun i => alignmentText (s.alignments[i]?).join) ++ "\n"
    body.foldl (fun s row => s.write (rowText (columns.map fun i => (row[i]?).getD [])))
      ((s.write (rowText header)).write separator)

/-- The number before the first item of a list. -/
def beforeFirst (attrs : Attrs) : Except Error Int :=
  let start := (Element.lookup attrs "start").getD "1"
  if Element.isValueless attrs "start" then .error .valueless
  else if !start.isEmpty && start.all Text.isAnyDigit then
    match Text.decimalNumber? start with
    | some n => .ok ((n : Int) - 1)
    | none => .error (.listStart start)
  else .ok 0

/-- Where a list begins. -/
def startList (place : Place) (s : State) : State :=
  if place.isInside "li" then s.endLine else s.blankLine

/-- The marker of the next item, and the state in which it is counted. -/
def nextMarker (place : Place) (s : State) : Text × State :=
  match place.ancestors.head?, s.ordinals with
  | some parent, n :: outer =>
    if parent == "ol" then
      (Text.ofInt (n + 1) ++ ". ", { s with ordinals := (n + 1) :: outer })
    else ("- ", s)
  | _, _ => ("- ", s)

/-- The beginning of a paragraph, which an alert's title has none of. -/
def startParagraph (place : Place) (s : State) : State × Bool :=
  if s.inAlert && !s.titleSkipped then ({ s with titleSkipped := true }, false)
  else if place.isInside "blockquote" then
    (if place.isFirst then s else s.write ('\n' :: s.quoteMarks), true)
  else if place.isInside "li" then
    (if place.isFirst then s else s.write ('\n' :: s.indent), true)
  else (s.blankLine, true)

/-- Opens an element. The flag says whether its content is still to be written, and its end. -/
def openElement (style : Style) (place : Place) (e : Element) (s : State) :
    Except Error (State × Bool) :=
  match Kind.of e.tag e.attrs with
  | .heading level => .ok (s.blankLine.write (List.replicate level '#' ++ " "), true)
  | .paragraph => .ok (startParagraph place s)
  | .quotation =>
    let s := { s with quoteDepth := s.quoteDepth + 1 }.blankLine
    .ok (s.write s.quoteMarks, true)
  | .preformatted =>
    let s := s.blankLine
    match soleCode? e.children with
    | some code =>
      .ok (writeFence (languageOf style code.attrs) (Inline.Rule.unescapeCode code.innerText) s,
        false)
    | none => .ok (s, true)
  | .code => .ok (s.put (codeSpan (Inline.Rule.unescapeCode e.innerText)), false)
  | .emphasis => .ok (s.put "*", true)
  | .strong => .ok (s.put "**", true)
  | .deletion => .ok (s.put "~~", true)
  | .link => .ok ({ s with inLink := true }.put "[", true)
  | .image =>
    .ok (s.put ("![" ++ attrText e.attrs "alt" ++ "](" ++ attrText e.attrs "src" ++
      titleText e.attrs ++ ")"), false)
  | .lineBreak => .ok (s.put "  \n", false)
  | .rule => .ok (s.blankLine.write "---", false)
  | .bulletList => .ok (startList place s, true)
  | .numberedList =>
    match beforeFirst e.attrs with
    | .ok n => .ok (startList place { s with ordinals := n :: s.ordinals }, true)
    | .error err => .error err
  | .item =>
    let (marker, s) := nextMarker place s
    .ok ({ s.write (s.indent ++ marker) with itemWidths := marker.length :: s.itemWidths }, true)
  | .table => .ok ({ s with rows := [], alignments := [] }.blankLine, true)
  | .tableSection => .ok (s, true)
  | .tableRow => .ok ({ s with row := some [] }, true)
  | .headerCell =>
    let given (name : Text) : Option Text :=
      match Element.lookup e.attrs name with
      | some [] => none
      | value => value
    .ok ({ s with
      cell := some []
      alignments := s.alignments ++ [(given "style").orElse fun _ => given "align"] }, true)
  | .bodyCell => .ok ({ s with cell := some [] }, true)
  | .alert =>
    let container := alertContainer ((Element.lookup e.attrs "class").getD [])
    .ok ({ s.blankLine.write (":::" ++ container ++ "\n") with
      inAlert := true
      titleSkipped := false }, true)
  | .other =>
    let void := isVoid e.text e.children
    if e.attrs.any (·.2.isNone) then .error .valueless
    else .ok (s.put (if style.safeTags.contains e.tag then openTag e.tag e.attrs void
      else shownOpenTag e.tag e.attrs void), true)

/-- Ends an element that is written as a tag. -/
def closeTag (style : Style) (e : Element) (s : State) : State :=
  if isVoid e.text e.children then s
  else if style.safeTags.contains e.tag then
    let s' := s.put ("</" ++ e.tag ++ ">")
    if s.cell.isNone && lineTags.contains e.tag then s'.write "\n" else s'
  else s.put ("&lt;/" ++ e.tag ++ "&gt;")

/-- The target of a link, in angle brackets where it could end early. -/
def targetText (target : Text) : Text :=
  if target.contains ' ' || target.contains ')' then '<' :: target ++ ['>'] else target

/-- Closes an element whose content has been written. -/
def closeElement (style : Style) (place : Place) (e : Element) (s : State) : State :=
  match Kind.of e.tag e.attrs with
  | .heading _ =>
    match Element.lookup e.attrs "id" with
    | none | some [] => s.write "\n"
    | some id => (s.write (" \x7b#" ++ id ++ "\x7d")).write "\n"
  | .paragraph =>
    if place.isInside "blockquote" || place.isInside "li" then s.write "\n" else s.write "\n\n"
  | .quotation => { s with quoteDepth := s.quoteDepth - 1 }.endLine
  | .preformatted | .code | .image | .lineBreak | .rule => s
  | .emphasis => s.put "*"
  | .strong => s.put "**"
  | .deletion => s.put "~~"
  | .link =>
    { s with inLink := false }.put
      ("](" ++ targetText (attrText e.attrs "href") ++ titleText e.attrs ++ ")")
  | .item => { s with itemWidths := s.itemWidths.drop 1 }.endLine
  | .bulletList | .tableSection => s
  | .numberedList => { s with ordinals := s.ordinals.drop 1 }
  | .tableRow =>
    match s.row with
    | some cells => { s with rows := s.rows ++ [cells], row := none }
    | none => s
  | .headerCell | .bodyCell =>
    match s.cell, s.row with
    | some cell, some cells => { s with row := some (cells ++ [Text.strip cell]), cell := none }
    | _, _ => { s with cell := none }
  | .table => writeTable s
  | .alert =>
    if s.inAlert then { (s.endLine.write ":::\n").blankLine with inAlert := false }
    else closeTag style e s
  | .other => closeTag style e s

/-- Writes a text where there is one. -/
def writeText? (style : Style) (rawHtml : List Text) (t : Option Text) (s : State) : State :=
  match t with
  | none | some [] => s
  | some t => writeText style rawHtml t s

mutual

/-- Writes an element without its tail. -/
def writeElement (style : Style) (rawHtml : List Text) (place : Place) :
    Element → State → Except Error State
  | .mk tag attrs text children tail, s =>
    match openElement style place (.mk tag attrs text children tail) s with
    | .error err => .error err
    | .ok (s, false) => .ok s
    | .ok (s, true) =>
      match writeAll style rawHtml ⟨tag :: place.ancestors, true⟩ children
          (writeText? style rawHtml text s) with
      | .error err => .error err
      | .ok s => .ok (closeElement style place (.mk tag attrs text children tail) s)

/-- Writes elements and the texts between them. -/
def writeAll (style : Style) (rawHtml : List Text) (place : Place) :
    List Element → State → Except Error State
  | [], s => .ok s
  | .mk tag attrs text children tail :: rest, s =>
    match writeElement style rawHtml place (.mk tag attrs text children tail) s with
    | .error err => .error err
    | .ok s => writeAll style rawHtml ⟨place.ancestors, place.ancestors.isEmpty⟩ rest
        (writeText? style rawHtml tail s)

end

/-- The Markdown of what is below the root of a tree. -/
def write (style : Style) (root : Element) (rawHtml : List Text) : Except Error Text :=
  (writeAll style rawHtml ⟨[], true⟩ root.children
    (writeText? style rawHtml root.text {})).map fun s => Text.stripEnd s.output.text

end ApiSite.Markup.Writer
