import ApiSite.Text.Basic

/-!
Rows of a table: where a line is divided into cells. A pipe divides two cells unless a backslash
escapes it or it stands within a code span of the row.
-/

set_option autoImplicit false

namespace ApiSite.Markup.TableRow

open Text (startsWith)

/-- A run of backticks in a row: how many, from where to where, and whether a backslash stands
before the first one. -/
structure Ticks where
  size : Nat
  first : Nat
  last : Nat
  escaped : Bool

/-- The backtick runs and the pipes of a row. -/
structure Scan where
  ticks : List Ticks := []
  pipes : List Nat := []

/-- Reads a row from a position on. An escaped backslash or pipe counts for nothing; the counter
passes over what was read. -/
def scanFrom : Nat → Nat → Text → Scan
  | _, _, [] => {}
  | pos, skip + 1, _ :: t => scanFrom (pos + 1) skip t
  | pos, 0, c :: t =>
    if c = '\\' then
      match t with
      | '\\' :: _ | '|' :: _ => scanFrom (pos + 1) 1 t
      | '\x60' :: _ =>
        let n := Text.countStart (· == '\x60') t
        let rest := scanFrom (pos + 1) n t
        { rest with ticks := ⟨n, pos, pos + n, true⟩ :: rest.ticks }
      | _ => scanFrom (pos + 1) 0 t
    else if c = '\x60' then
      let n := Text.countStart (· == '\x60') t
      let rest := scanFrom (pos + 1) n t
      { rest with ticks := ⟨n + 1, pos, pos + n, false⟩ :: rest.ticks }
    else if c = '|' then
      let rest := scanFrom (pos + 1) 0 t
      { rest with pipes := pos :: rest.pipes }
    else scanFrom (pos + 1) 0 t

/-- The code spans of a row: a run of backticks, less an escaped one, opens a span that the next run
of that size closes. The counter passes over the runs within a span. -/
def spansFrom : Nat → List Ticks → List (Nat × Nat)
  | _, [] => []
  | skip + 1, _ :: rest => spansFrom skip rest
  | 0, run :: rest =>
    let size := if run.escaped then run.size - 1 else run.size
    if size = 0 then spansFrom 0 rest
    else
      match rest.findIdx? (·.size == size) with
      | none => spansFrom 0 rest
      | some i => (run.first, ((rest[i]?).map (·.last)).getD run.last) :: spansFrom (i + 1) rest

/-- Whether a position lies in one of the spans. -/
def inSpan (pos : Nat) (spans : List (Nat × Nat)) : Bool :=
  spans.any fun (first, last) => first ≤ pos && pos ≤ last

/-- Cuts a text at the given positions, leaving out the characters there. -/
def cutAt (offset : Nat) (t : Text) : List Nat → List Text
  | [] => [t]
  | p :: rest => t.take (p - offset) :: cutAt (p + 1) (t.drop (p - offset + 1)) rest

/-- The cells of a row without its borders. -/
def cells (row : Text) : List Text :=
  let scan := scanFrom 0 0 row
  let spans := spansFrom 0 scan.ticks
  cutAt 0 row (scan.pipes.filter fun p => !inSpan p spans)

/-- Whether a row ends with a pipe that no backslash escapes. -/
def hasRightBorder (row : Text) : Bool :=
  match row.reverse with
  | '|' :: t => Text.countStart (· == '\\') t % 2 == 0
  | _ => false

/-- The row without its final pipe, and without the backslashes before that. -/
def dropRightBorder (row : Text) : Text :=
  if hasRightBorder row then ((row.reverse.drop 1).dropWhile (· == '\\')).reverse else row

/-- Whether a row begins with a pipe. -/
def hasLeftBorder (row : Text) : Bool := startsWith ['|'] row

/-- The cells of a row of a table; `bordered` says that the table's header has a border. -/
def split (bordered : Bool) (row : Text) : List Text :=
  if bordered then
    cells (dropRightBorder (if hasLeftBorder row then row.drop 1 else row))
  else cells row

/-- The horizontal placement of a column's text. -/
inductive Alignment where
  | left | center | right
  deriving DecidableEq, Repr

/-- The placement that a cell of the separator row asks for. -/
def Alignment.ofSeparator (cell : Text) : Option Alignment :=
  let cell := Text.trim (· == ' ') cell
  let opens := startsWith [':'] cell
  let closes := startsWith [':'] cell.reverse
  if opens && closes then some .center
  else if opens then some .left
  else if closes then some .right
  else none

/-- The word for a placement. -/
def Alignment.word : Alignment → Text
  | .left => "left"
  | .center => "center"
  | .right => "right"

/-- The layout of a table: whether rows have borders, and the placement of each column. -/
structure Layout where
  bordered : Bool
  columns : List (Option Alignment)

/-- The layout of the table that a block's lines form, if they do. The first line is the header; the
second one separates it from the body with dashes and colons, as many cells as the header has. A
table of one column needs a border in every line. -/
def layout? (lines : List Text) : Option Layout :=
  match lines.map (Text.trim (· == ' ')) with
  | header :: separator :: body =>
    let bordered := hasLeftBorder header || hasRightBorder header
    let size := (split bordered header).length
    let isTable :=
      1 < size || (bordered && (separator :: body).all fun row =>
        hasLeftBorder row || hasRightBorder row)
    let columns := split bordered separator
    if isTable && columns.length == size &&
        columns.all (·.all fun c => c == '|' || c == ':' || c == '-' || c == ' ') then
      some ⟨bordered, columns.map Alignment.ofSeparator⟩
    else none
  | _ => none

end ApiSite.Markup.TableRow
