import ApiSite.Text.Basic

/-!
A place in a YAML source: what is left of it, and the line and column reached. Lines end at every
kind of line break that YAML knows.
-/

set_option autoImplicit false

namespace ApiSite.Yaml

/-- Why a source gives no value. -/
inductive Error where
  /-- The source breaks the rules of YAML, or uses a tag that has no meaning here. -/
  | malformed
  /-- The source is well formed but names a value that does not exist, such as a thirteenth
  month. -/
  | impossible
  /-- The text of a tagged value is none of the words that the tag allows. -/
  | unknownWord
  deriving DecidableEq, Repr

/-- Whether a character ends a line. -/
def isBreak (c : Char) : Bool :=
  c == '\n' || c == '\r' || c.toNat == 0x85 || c.toNat == 0x2028 || c.toNat == 0x2029

/-- Whether a line or the source ends here. -/
def endsLine (c : Option Char) : Bool := c.all isBreak

/-- Whether a space, a line's end or the source's end is here. -/
def endsWord (c : Option Char) : Bool := c.all fun c => c == ' ' || isBreak c

/-- Whether white space or the source's end is here. -/
def isGap (c : Option Char) : Bool := c.all fun c => c == ' ' || c == '\t' || isBreak c

/-- A place in a source. -/
structure Cursor where
  rest : Text
  line : Nat := 0
  column : Nat := 0
  index : Nat := 0

namespace Cursor

def peek (c : Cursor) : Option Char := c.rest.head?

/-- The character some places ahead. -/
def ahead (c : Cursor) (n : Nat) : Option Char := c.rest[n]?

/-- The place behind the next character. -/
def next (c : Cursor) : Cursor :=
  match c.rest with
  | [] => c
  | ch :: t =>
    if isBreak ch && !(ch == '\r' && t.head? == some '\n') then
      ⟨t, c.line + 1, 0, c.index + 1⟩
    else if ch.toNat == 0xfeff then ⟨t, c.line, c.column, c.index + 1⟩
    else ⟨t, c.line, c.column + 1, c.index + 1⟩

/-- The place some characters ahead. -/
def skip : Nat → Cursor → Cursor
  | 0, c => c
  | n + 1, c => skip n c.next

/-- The longest text of characters of a class from here, and the place behind it. -/
def span (p : Char → Bool) (c : Cursor) : Text × Cursor :=
  let t := c.rest.takeWhile p
  (t, c.skip t.length)

/-- The place behind the spaces here. -/
def skipSpaces (c : Cursor) : Cursor := (c.span (· == ' ')).2

/-- The line break here, every usual one as a line feed, and the place behind it. -/
def lineBreak? (c : Cursor) : Option (Char × Cursor) :=
  match c.rest with
  | '\r' :: '\n' :: _ => some ('\n', c.skip 2)
  | ch :: _ =>
    if ch.toNat == 0x2028 || ch.toNat == 0x2029 then some (ch, c.next)
    else if isBreak ch then some ('\n', c.next)
    else none
  | [] => none

/-- The place behind a line break, if there is one here. -/
def skipBreak (c : Cursor) : Cursor :=
  match c.lineBreak? with
  | some (_, after) => after
  | none => c

/-- Whether the three characters that begin or end a document stand here. -/
def isDocumentMark (c : Cursor) : Bool :=
  (Text.startsWith "---" c.rest || Text.startsWith "..." c.rest) && isGap (c.ahead 3)

/-- The place behind a comment, if there is one here. -/
def skipComment (c : Cursor) : Cursor :=
  if c.peek == some '#' then (c.span fun ch => !isBreak ch).2 else c

end Cursor

end ApiSite.Yaml
