import ApiSite.Naming
import ApiSite.Text.Substitute
import ApiSite.Page.Block

/-!
Headings within documentation that stands on a page: a title that repeats the page's own is dropped,
and the headings of a member's documentation go below the member's heading.
-/

set_option autoImplicit false

namespace ApiSite.Page

/-- The number signs of a heading line. -/
def headingMarks? (line : Text) : Option Text :=
  let marks := line.takeWhile (· == '#')
  if 0 < marks.length ∧ marks.length ≤ 6 ∧ (line.drop marks.length).head?.any Text.isBlank then
    some marks
  else none

/-- Drops an anchor at the end of a line, with the blanks around it. -/
def dropAnchor : Text.Rule := fun t => do
  let rest ← Text.after? "\x7b#" (Text.stripStart t)
  let name := rest.takeWhile (· != '\x7d')
  match rest.drop name.length with
  | _ :: rest => if name.isEmpty || !Text.isBlankText rest then none else some (t.length, [])
  | [] => none

/-- A heading line below the heading of a member, with an anchor of its own. -/
def lowerHeading (memberAnchor marks line : Text) : Text :=
  let line := Text.substituteFirst dropAnchor line
  let line : Text := if marks.length ≤ 4 then "##" ++ line else line
  let slug := Naming.anchor line
  if slug.isEmpty then line else line ++ anchorMark (memberAnchor ++ '-' :: slug)

/-- Whether a line opens or closes a code block. -/
def isFence (line : Text) : Bool :=
  let line := Text.stripStart line
  Text.startsWith "\x60\x60\x60" line || Text.startsWith "~~~" line

/-- Puts the headings outside code blocks below the heading of a member. -/
def lowerHeadingsFrom (memberAnchor : Text) : (inFence : Bool) → List Text → List Text
  | _, [] => []
  | inFence, line :: lines =>
    let inFence := inFence != isFence line
    let line := match inFence, headingMarks? line with
      | false, some marks => lowerHeading memberAnchor marks line
      | _, _ => line
    line :: lowerHeadingsFrom memberAnchor inFence lines

/-- A member's documentation with its headings below the heading of the member. -/
def lowerHeadings (memberAnchor doc : Text) : Text :=
  Text.unlines (lowerHeadingsFrom memberAnchor false (Text.lines doc))

/-- A line up to its end, and what follows its line break. -/
def splitLine (t : Text) : Text × Text :=
  let line := t.takeWhile (· != '\n')
  match t.drop line.length with
  | _ :: rest => (Text.dropEnding "\r" line, rest)
  | [] => (line, [])

/-- The last blank other than a line feed, but not the first one, stands for a title where nothing
but blanks follow; with it goes what comes behind it. -/
def blankTitle? : Text → Option (Text × Text)
  | [] => none
  | _ :: blanks =>
    match blanks.reverse.dropWhile (· == '\n') with
    | [] => none
    | c :: before => some ([c], (blanks.drop (before.length + 1)).drop 1)

/-- The title that a text opens with, and what follows its line. -/
def openingTitle? : Text → Option (Text × Text)
  | '#' :: t =>
    let blanks := t.takeWhile Text.isBlank
    match t.drop blanks.length with
    | [] => blankTitle? blanks
    | rest => if blanks.isEmpty then none else some (splitLine rest)
  | _ => none

/-- A title for comparison: letter case counts for nothing, and hyphens are underscores. -/
def comparable (title : Text) : Text := Text.replace "-" "_" (Text.lower title)

/-- A text without an opening title that repeats the page's. Any other one becomes the heading of a
section, in one line with what follows it. -/
def dropRepeatedTitle (title t : Text) : Text :=
  match openingTitle? t with
  | some (found, rest) =>
    if comparable (Text.strip found) == comparable title then Text.stripStart rest
    else "## " ++ found ++ rest
  | none => t

end ApiSite.Page
