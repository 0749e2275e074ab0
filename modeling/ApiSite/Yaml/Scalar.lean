import ApiSite.Yaml.Cursor
import ApiSite.Text.Entity

/-!
Scalars: texts written plainly, in quotation marks, or as indented blocks. Line breaks inside them
are folded: a single one becomes a space, and of several the first is dropped.
-/

set_option autoImplicit false

namespace ApiSite.Yaml.Scalar

/-- What a folded line break and the empty lines behind it become. -/
def folded (first : Char) (breaks : Text) : Text :=
  (if first ≠ '\n' then [first] else if breaks.isEmpty then [' '] else []) ++ breaks

/-- The empty lines from here on, blanks on them passed over; a document's mark may not stand at
their start. `fuel` bounds their number. -/
def quotedBreaks : Nat → Cursor → Except Error (Text × Cursor)
  | 0, _ => .error .malformed
  | fuel + 1, c =>
    if c.isDocumentMark then .error .malformed
    else
      let c := (c.span fun ch => ch == ' ' || ch == '\t').2
      match c.lineBreak? with
      | none => .ok ([], c)
      | some (b, c) => (quotedBreaks fuel c).map fun (breaks, c) => (b :: breaks, c)

/-- What a letter after a backslash stands for. -/
def escape? (c : Char) : Option Char :=
  match c with
  | '0' => some '\x00'
  | 'a' => some '\x07'
  | 'b' => some '\x08'
  | 't' => some '\t'
  | '\t' => some '\t'
  | 'n' => some '\n'
  | 'v' => some '\x0b'
  | 'f' => some '\x0c'
  | 'r' => some '\r'
  | 'e' => some '\x1b'
  | ' ' => some ' '
  | '"' => some '"'
  | '\\' => some '\\'
  | '/' => some '/'
  | 'N' => some '\u0085'
  | '_' => some '\u00a0'
  | 'L' => some '\u2028'
  | 'P' => some '\u2029'
  | _ => none

/-- How many hexadecimal digits follow a letter after a backslash. -/
def escapeWidth? (c : Char) : Option Nat :=
  match c with
  | 'x' => some 2
  | 'u' => some 4
  | 'U' => some 8
  | _ => none

/-- A number in hexadecimal digits after a backslash and a letter, and its length with these. -/
def codePoint? (t : Text) : Option (Nat × Nat) :=
  match t with
  | '\\' :: letter :: digits =>
    (escapeWidth? letter).bind fun width =>
      let digits := digits.take width
      if digits.length = width ∧ digits.all Text.isHexDigit then
        some (Text.hexadecimal digits, width + 2)
      else none
  | _ => none

/-- The character of an escaped number, and the length of the escape: two halves of a pair make one
character. -/
def escapedChar (t : Text) : Except Error (Char × Nat) :=
  match codePoint? t with
  | none => .error .malformed
  | some (n, size) =>
    if 0x110000 ≤ n then .error .impossible
    else if 0xd800 ≤ n ∧ n < 0xe000 then
      match codePoint? (t.drop size) with
      | some (m, more) =>
        if n < 0xdc00 ∧ 0xdc00 ≤ m ∧ m < 0xe000 then
          .ok (Char.ofNat (0x10000 + (n - 0xd800) * 0x400 + (m - 0xdc00)), size + more)
        else .ok ('\ufffd', size)
      | none => .ok ('\ufffd', size)
    else .ok (Char.ofNat n, size)

/-- The rest of a scalar in quotation marks, given what has been read in reverse. `fuel` bounds the
steps. -/
def quotedFrom (double : Bool) : Nat → Text → Cursor → Except Error (Text × Cursor)
  | 0, _, _ => .error .malformed
  | fuel + 1, done, c =>
    let quote := if double then '"' else '\''
    match c.rest with
    | [] => .error .malformed
    | ch :: t =>
      if !double && ch == '\'' && t.head? == some '\'' then
        quotedFrom double fuel ('\'' :: done) (c.skip 2)
      else if ch == quote then .ok (done.reverse, c.next)
      else if ch == ' ' || ch == '\t' || isBreak ch then
        let (blanks, c) := c.span fun ch => ch == ' ' || ch == '\t'
        match c.lineBreak? with
        | some (b, c) =>
          match quotedBreaks (c.rest.length + 1) c with
          | .error e => .error e
          | .ok (breaks, c) => quotedFrom double fuel ((folded b breaks).reverse ++ done) c
        | none => quotedFrom double fuel (blanks.reverse ++ done) c
      else if double && ch == '\\' then
        match t.head? with
        | none => .error .malformed
        | some letter =>
          match escape? letter with
          | some x => quotedFrom double fuel (x :: done) (c.skip 2)
          | none =>
            match c.next.lineBreak? with
            | some (_, c) =>
              match quotedBreaks (c.rest.length + 1) c with
              | .error e => .error e
              | .ok (breaks, c) => quotedFrom double fuel (breaks.reverse ++ done) c
            | none =>
              match escapedChar c.rest with
              | .error e => .error e
              | .ok (x, size) => quotedFrom double fuel (x :: done) (c.skip size)
      else quotedFrom double fuel (ch :: done) c.next

/-- A scalar in quotation marks. -/
def quoted (double : Bool) (c : Cursor) : Except Error (Text × Cursor) :=
  quotedFrom double (c.rest.length + 1) [] c.next

/-- How the line breaks at the end of a block are kept: by default one of them. -/
inductive Chomping where
  | clip
  | strip
  | keep
  deriving DecidableEq, Repr

/-- What stands behind the mark of a block: how its end is kept, and its indentation. -/
def blockHeader (c : Cursor) : Except Error (Chomping × Option Nat × Cursor) :=
  let chomping? (c : Cursor) : Option Chomping :=
    match c.peek with
    | some '+' => some .keep
    | some '-' => some .strip
    | _ => none
  let digit? (c : Cursor) : Option Nat :=
    match c.peek with
    | some ch => if ch.isDigit then some (ch.toNat - '0'.toNat) else none
    | none => none
  let (chomping, indent, c) :=
    match chomping? c with
    | some k =>
      match digit? c.next with
      | some n => (k, some n, c.skip 2)
      | none => (k, none, c.next)
    | none =>
      match digit? c with
      | some n =>
        match chomping? c.next with
        | some k => (k, some n, c.skip 2)
        | none => (.clip, some n, c.next)
      | none => (.clip, none, c)
  if indent == some 0 || !endsWord c.peek then .error .malformed
  else
    let c := c.skipSpaces.skipComment
    if endsLine c.peek then .ok (chomping, indent, c.skipBreak)
    else .error .malformed

/-- The empty lines before a block and the greatest column of the spaces on them. -/
def blockIndentation : Nat → Nat → Cursor → Text × Nat × Cursor
  | 0, most, c => ([], most, c)
  | fuel + 1, most, c =>
    match c.lineBreak? with
    | some (b, c) =>
      let (breaks, most, c) := blockIndentation fuel most c
      (b :: breaks, most, c)
    | none =>
      if c.peek == some ' ' then blockIndentation fuel (max most c.next.column) c.next
      else ([], most, c)

/-- The place behind spaces up to a column. -/
def skipIndent (indent : Nat) (c : Cursor) : Cursor :=
  c.skip (min (indent - c.column) (Text.countStart (· == ' ') c.rest))

/-- The empty lines inside a block, up to its indentation on the next line. -/
def blockBreaks (indent : Nat) : Nat → Cursor → Text × Cursor
  | 0, c => ([], c)
  | fuel + 1, c =>
    let c := skipIndent indent c
    match c.lineBreak? with
    | some (b, c) =>
      let (breaks, c) := blockBreaks indent fuel c
      (b :: breaks, c)
    | none => ([], c)

/-- The lines of a block, what is read of it in reverse, given the empty lines before the next one.
The last line break and the empty lines behind it are returned by themselves. -/
def blockLines (fold : Bool) (indent : Nat) :
    Nat → Text → Text → Cursor → Text × Option Char × Text × Cursor
  | 0, done, breaks, c => (done, none, breaks, c)
  | fuel + 1, done, breaks, c =>
    let done := breaks.reverse ++ done
    let startsBlank := c.peek == some ' ' || c.peek == some '\t'
    let (line, c) := c.span fun ch => !isBreak ch
    let done := line.reverse ++ done
    match c.lineBreak? with
    | none => (done, none, [], c)
    | some (b, c) =>
      let (breaks, c) := blockBreaks indent (c.rest.length + 1) c
      if c.column = indent ∧ c.peek.isSome then
        let nextBlank := c.peek == some ' ' || c.peek == some '\t'
        let between : Text :=
          if fold && b == '\n' && !startsBlank && !nextBlank then
            (if breaks.isEmpty then [' '] else [])
          else [b]
        blockLines fold indent fuel (between ++ done) breaks c
      else (done, some b, breaks, c)

/-- A scalar written as a block, inside a collection with the given indentation. -/
def block (fold : Bool) (outer : Int) (c : Cursor) : Except Error (Text × Cursor) :=
  match blockHeader c.next with
  | .error e => .error e
  | .ok (chomping, increment, c) =>
    let least := (max 1 (outer + 1)).toNat
    let fuel := c.rest.length + 1
    let (indent, breaks, c) :=
      match increment with
      | none =>
        let (breaks, most, c) := blockIndentation fuel 0 c
        (max least most, breaks, c)
      | some n =>
        let indent := least + n - 1
        let (breaks, c) := blockBreaks indent fuel c
        (indent, breaks, c)
    let (done, last, breaks, c) :=
      if c.column = indent ∧ c.peek.isSome then blockLines fold indent fuel [] breaks c
      else ([], none, breaks, c)
    let ending : Text := if chomping == .strip then [] else last.toList
    let kept : Text := if chomping == .keep then breaks else []
    .ok (done.reverse ++ ending ++ kept, c)

/-- The length of a stretch of plain text, up to white space or a character that ends it. -/
def plainLength (inFlow : Bool) : Text → Nat
  | [] => 0
  | ch :: t =>
    let flowMark (ch : Char) : Bool := inFlow && ("[],\x7b\x7d" : Text).contains ch
    if isGap (some ch) || flowMark ch || (inFlow && ch == '?') ||
        (ch == ':' && (isGap t.head? || t.head?.any flowMark)) then 0
    else plainLength inFlow t + 1

/-- The empty lines after a line of plain text, up to a document's mark; the flag says that there is
one. -/
def plainBreaks : Nat → Cursor → Text × Cursor × Bool
  | 0, c => ([], c, false)
  | fuel + 1, c =>
    if c.peek == some ' ' then plainBreaks fuel c.next
    else
      match c.lineBreak? with
      | none => ([], c, false)
      | some (b, c) =>
        if c.isDocumentMark then ([], c, true)
        else
          let (breaks, c, marked) := plainBreaks fuel c
          (b :: breaks, c, marked)

/-- The white space behind a stretch of plain text: what it becomes if the text goes on, the place
behind it, and whether a line ends in it. -/
def plainGap (c : Cursor) : Text × Cursor × Bool :=
  let (blanks, c) := c.span (· == ' ')
  match c.lineBreak? with
  | none => (blanks, c, false)
  | some (b, c) =>
    if c.isDocumentMark then ([], c, true)
    else
      match plainBreaks (c.rest.length + 1) c with
      | (_, c, true) => ([], c, true)
      | (breaks, c, false) => (folded b breaks, c, true)

/-- Plain text, given what has been read in reverse, the white space behind that, and whether a line
has ended since. -/
def plainFrom (inFlow : Bool) (indent : Int) :
    Nat → Text → Text → Bool → Cursor → Text × Cursor × Bool
  | 0, done, _, ended, c => (done.reverse, c, ended)
  | fuel + 1, done, gap, ended, c =>
    let n := if c.peek == some '#' then 0 else plainLength inFlow c.rest
    if n = 0 then (done.reverse, c, ended)
    else
      let done := (c.rest.take n).reverse ++ gap.reverse ++ done
      let (gap, c, ended) := plainGap (c.skip n)
      if gap.isEmpty || c.peek == some '#' || (!inFlow && (c.column : Int) < indent) then
        (done.reverse, c, ended)
      else plainFrom inFlow indent fuel done gap ended c

/-- A plain scalar inside a collection with the given indentation: its text, the place behind it and
the white space after it, and whether a line ends there. -/
def plain (inFlow : Bool) (outer : Int) (c : Cursor) : Text × Cursor × Bool :=
  plainFrom inFlow (outer + 1) (c.rest.length + 1) [] [] false c

end ApiSite.Yaml.Scalar
