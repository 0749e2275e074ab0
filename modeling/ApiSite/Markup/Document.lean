import ApiSite.Text.Blank
import ApiSite.Markup.Mark
import ApiSite.Markup.RawHtml
import ApiSite.Markup.Inline.Reading
import ApiSite.Markup.Attributes
import ApiSite.Markup.HeadingIds

/-!
The markup language of documentation texts as a whole: from a source to the tree of its elements.

The grammar reads a source that is free of the characters that enclose marks, with one kind of line
end, spaces for tabs, and nothing on lines of spaces only.
-/

set_option autoImplicit false

namespace ApiSite.Markup.Source

/-- Replaces tabs by spaces up to the next multiple of `width`, for a text that starts in the given
column. -/
def expandTabs (width : Nat) : Nat → Text → Text
  | _, [] => []
  | column, c :: t =>
    if c = '\t' then
      let n := width - column % width
      Text.spaces n ++ expandTabs width (column + n) t
    else if c = '\n' ∨ c = '\r' then c :: expandTabs width 0 t
    else c :: expandTabs width (column + 1) t

/-- Empties the lines that hold spaces only; the first line and the last one stay. -/
def emptyBlankLines : List Text → List Text
  | [] => []
  | [line] => [line]
  | line :: rest => (if line.all (· == ' ') then [] else line) :: emptyBlankLines rest

/-- The width of a tab. -/
abbrev tabWidth : Nat := 4

/-- The lines of a source, made uniform; two empty lines end it. -/
def uniformLines (t : Text) : List Text :=
  let t := t.filter fun c => c != Mark.opening && c != Mark.closing
  let t := expandTabs tabWidth 0 (Text.unifyLineEnds t ++ ['\n', '\n'])
  match Text.lines t with
  | [] => []
  | first :: rest => first :: emptyBlankLines rest

end ApiSite.Markup.Source

namespace ApiSite.Markup

/-- A parsed documentation text: its elements below one root, the raw markup that marks in it refer
to, and the names that the text asks for, in order. It is sound if its headings give a value to
every id and label that they name; what is not sound has no meaning. -/
structure Document where
  root : Element
  rawHtml : List Text
  names : List Text
  isSound : Bool

/-- Reads a documentation text. Bracketed names are looked up with `resolve?`. -/
def Document.parse (resolve? : Option (Text → Option Element)) (source : Text) : Document :=
  if Text.isBlankText source then ⟨.bare "div", [], [], true⟩
  else
    let (lines, fences) := Fence.extract (Source.uniformLines source)
    let (text, rawHtml) := RawHtml.extract (Text.unlines lines)
    let (root, definitions) := Block.parse fences text
    let (root, trace) := Inline.read ⟨definitions, resolve?⟩ root ⟨rawHtml, [], 0⟩
    let root := Attributes.read root
    ⟨HeadingIds.read trace.rawHtml root, trace.rawHtml, trace.names, HeadingIds.areGiven root⟩

end ApiSite.Markup
