import ApiSite.Text.Blank
import ApiSite.Text.WordChar
import ApiSite.Text.Substitute

/-!
The markup of signatures: escaped texts in spans that say what they are, and the length that a
reader sees of them.
-/

set_option autoImplicit false

namespace ApiSite.Signature

/-- A character of a text as markup. -/
def escapeChar : Char → Text
  | '&' => "&amp;"
  | '<' => "&lt;"
  | '>' => "&gt;"
  | '"' => "&quot;"
  | c => [c]

/-- A text as markup. -/
def escape (t : Text) : Text := t.flatMap escapeChar

/-- The entities that source texts carry, in the order in which they are decoded. -/
def entities : List (Text × Text) :=
  [("&lt;", "<"), ("&#60;", "<"), ("&gt;", ">"), ("&#62;", ">"), ("&quot;", "\""), ("&#34;", "\""),
    ("&#39;", "'"), ("&amp;", "&"), ("&#38;", "&")]

/-- Decodes the entities that source texts carry. -/
def unescape (t : Text) : Text := entities.foldl (fun t e => Text.replace e.1 e.2 t) t

/-- Drops a tag. -/
def dropTag : Text.Rule
  | '<' :: t =>
    let inside := t.takeWhile (· != '>')
    if inside.length < t.length then some (inside.length + 2, []) else none
  | _ => none

/-- How many characters a reader sees of a piece of markup. -/
def shownLength (markup : Text) : Nat := (unescape (Text.substitute dropTag markup)).length

/-- A span of a class around markup. -/
def span (className content : Text) : Text :=
  "<span class=\"" ++ className ++ "\">" ++ content ++ "</span>"

/-- A keyword. -/
def keyword (word : Text) : Text := span "kw" (escape word)

/-- The name of what is declared. -/
def declared (name : Text) : Text := span "fn" (escape name)

/-- Whether a text begins as a number does. -/
def isNumeric : Text → Bool
  | '-' :: c :: _ => Text.isDecimal c
  | c :: _ => Text.isDecimal c
  | [] => false

/-- Whether a text begins as a literal text does. -/
def isQuoted : Text → Bool
  | 'r' :: c :: _ => c == '"' || c == '\''
  | c :: _ => c == '"' || c == '\''
  | [] => false

/-- A default or constant value. -/
def literal (value : Text) : Text :=
  let value := Text.strip value
  if isNumeric value then span "num-lit" (escape value)
  else if isQuoted value then span "str-lit" (escape value)
  else if (Text.ofStrings ["true", "false", "null"]).contains value then keyword value
  else escape value

end ApiSite.Signature
