import ApiSite.Text.Basic

/-!
Tables in Markdown. A cell cannot break its row: its pipes are escaped, and so are its angle
brackets outside code spans and badges.
-/

set_option autoImplicit false

namespace ApiSite.Table

/-- The size of the code span in front of a text. -/
def codeSpanSize? : Text → Option Nat
  | '\x60' :: t =>
    let inside := t.takeWhile (· != '\x60')
    if inside.length < t.length then some (inside.length + 2) else none
  | _ => none

/-- The size of the badge in front of a text. -/
def badgeSize? (t : Text) : Option Nat :=
  if Text.startsWith "<Badge " t then
    (Text.cut? "/>" t).map fun (before, _) => before.length + 2
  else none

/-- The size of an escaped angle bracket in front of a text. -/
def escapedSize? : Text → Option Nat
  | '\\' :: '<' :: _ => some 2
  | '\\' :: '>' :: _ => some 2
  | _ => none

/-- The size of what is copied as it stands. -/
def copiedSize? (t : Text) : Option Nat :=
  (codeSpanSize? t).or ((escapedSize? t).or (badgeSize? t))

/-- Escapes the angle brackets of a cell. The counter says how many characters are still to be
copied. -/
def escapeBrackets : Nat → Text → Text
  | _, [] => []
  | k + 1, c :: t => c :: escapeBrackets k t
  | 0, c :: t =>
    match copiedSize? (c :: t) with
    | some size => c :: escapeBrackets (size - 1) t
    | none =>
      if c = '<' then '\\' :: '<' :: escapeBrackets 0 t
      else if c = '>' then '\\' :: '>' :: escapeBrackets 0 t
      else c :: escapeBrackets 0 t

/-- A cell that cannot break its row. -/
def escapeCell (cell : Text) : Text := escapeBrackets 0 (Text.replace "|" "\\|" cell)

/-- A row of cells. -/
def row (cells : List Text) : Text := "| " ++ Text.join " | " (cells.map escapeCell) ++ " |"

/-- The row between the header and the body. -/
def separator (columns : Nat) : Text :=
  "|" ++ Text.join "|" (List.replicate columns ("---" : Text)) ++ "|"

/-- A table; without rows there is none. -/
def render (header : List Text) (rows : List (List Text)) : Text :=
  if rows.isEmpty then []
  else Text.unlines (row header :: separator header.length :: rows.map row)

end ApiSite.Table
