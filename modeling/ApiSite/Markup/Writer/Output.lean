import ApiSite.Text.Basic

/-!
The text that a writer has produced, and the number of line feeds at its end, which tells where a
blank line is missing.
-/

set_option autoImplicit false

namespace ApiSite.Markup.Writer

/-- Written pieces, the latest first, and the line feeds at the end of what they make together. -/
structure Output where
  pieces : List Text := []
  newlines : Nat := 0

namespace Output

/-- All that has been written. -/
def text (o : Output) : Text := o.pieces.reverse.flatten

/-- How many line feeds stand at the end of a text. -/
def finalNewlines (t : Text) : Nat := Text.countStart (· == '\n') t.reverse

/-- Writes a piece. -/
def write (t : Text) (o : Output) : Output :=
  if t.isEmpty then o
  else ⟨t :: o.pieces, if t.all (· == '\n') then o.newlines + t.length else finalNewlines t⟩

/-- Ends the line and leaves a blank one, unless nothing has been written. -/
def blankLine (o : Output) : Output :=
  if o.pieces.isEmpty then o else o.write (List.replicate (2 - o.newlines) '\n')

/-- Ends the line, unless it has been ended. -/
def endLine (o : Output) : Output := if o.newlines < 1 then o.write "\n" else o

end Output

end ApiSite.Markup.Writer
