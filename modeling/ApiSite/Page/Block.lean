import ApiSite.Text.Blank
import ApiSite.Text.LetterCase

/-!
The blocks that pages are made of. A block is a list of lines whose last one is empty, so that pages
are blocks one after the other.
-/

set_option autoImplicit false

namespace ApiSite.Page

/-- A text within double quotation marks of the metadata block. -/
def escapeMetadata (t : Text) : Text :=
  let t := Text.replace "\"" "\\\"" (Text.replace "\\" "\\\\" t)
  Text.replace "\r" "\\r" (Text.replace "\n" "\\n" t)

/-- A text whose angle brackets open no tag. -/
def escapeBrackets (t : Text) : Text := Text.replace ">" "\\>" (Text.replace "<" "\\<" t)

/-- A badge. -/
def badge (kind text : Text) : Text :=
  "<Badge type=\"" ++ kind ++ "\" text=\"" ++ text ++ "\" />"

/-- Which headings the outline of a page has. -/
inductive Outline where
  | shown (isShown : Bool)
  | levels (levels : List Int)

def Outline.toText : Outline → Text
  | shown b => if b then "true" else "false"
  | levels l => "[" ++ Text.join ", " (l.map Text.ofInt) ++ "]"

/-- A line of the metadata block that holds a text. -/
def metadataLine (name value : Text) : Text := name ++ ": \"" ++ escapeMetadata value ++ "\""

/-- The metadata block of a page. -/
def metadata (title description : Text) (outline : Outline)
    (category library : Option Text := none) : List Text :=
  let opening : List Text :=
    ["---", metadataLine "title" title, metadataLine "description" description]
  let closing : List Text :=
    ["outline: " ++ outline.toText, "editLink: false", "prev: false", "next: false", "---", []]
  opening ++ (category.map (metadataLine "category")).toList ++
    (library.map (metadataLine "library")).toList ++ closing

/-- The way to a page. -/
def breadcrumb : List Text := ["<ApiBreadcrumb />", []]

/-- The mark of what is deprecated. -/
def deprecatedBadge : Text := badge "warning" "deprecated"

/-- A heading with marks behind it; what is deprecated is struck out. -/
def headingLine (marks title : Text) (isDeprecated : Bool) (badges : List Text) : Text :=
  let title := escapeBrackets title
  let shown : Text := if isDeprecated then deprecatedBadge ++ " ~~" ++ title ++ "~~" else title
  marks ++ " " ++ shown ++ badges.flatMap fun b => ' ' :: b

/-- The title of a page. -/
def titleHeading (title : Text) (isDeprecated : Bool := false) (badges : List Text := []) :
    List Text :=
  [headingLine "#" title isDeprecated badges, []]

/-- An anchor behind a heading. -/
def anchorMark (anchor : Text) : Text := " \x7b#" ++ anchor ++ "\x7d"

/-- The heading of a section, with an anchor that no member can have. -/
def sectionHeading (title : Text) : List Text :=
  ["## " ++ title ++ anchorMark ("section-" ++ Text.replace " " "-" (Text.lower title)), []]

/-- The heading of a member. -/
def memberHeading (title anchor : Text) (isDeprecated : Bool := false)
    (badges : List Text := []) : List Text :=
  [headingLine "###" title isDeprecated badges ++ anchorMark anchor, []]

/-- A signature. -/
def signature (markup : Text) : List Text :=
  ["<div class=\"member-signature\"><pre><code>" ++ markup ++ "</code></pre></div>", []]

/-- A fenced code block, as one line of several. -/
def codeBlock (code language : Text) : Text :=
  "\x60\x60\x60" ++ language ++ "\n" ++ Text.stripEnd code ++ "\n\x60\x60\x60"

/-- A titled box. -/
def box (kind title : Text) (content : Text := []) : List Text :=
  let closing : List Text := [":::", []]
  Text.stripEnd (":::" ++ kind ++ " " ++ title) ::
    if content.isEmpty then closing else content :: closing

/-- A titled box with a list; without items there is none. -/
def boxedList (title : Text) (items : List Text) : List Text :=
  if items.isEmpty then [] else box "info" title (Text.unlines (items.map ("- " ++ ·)))

/-- What is said about something deprecated. -/
def deprecation (message : Text) : List Text := box "warning" "DEPRECATED" (escapeBrackets message)

/-- A paragraph; an empty text is none. -/
def paragraph (t : Text) : List Text := if t.isEmpty then [] else [t, []]

/-- The text of a page. -/
def join (blocks : List Text) : Text := Text.stripEnd (Text.unlines blocks) ++ "\n"

end ApiSite.Page
