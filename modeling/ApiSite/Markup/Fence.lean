import ApiSite.Text.WordChar
import ApiSite.Markup.Mark

/-!
Fenced code: a line of three or more backticks or tildes opens a block that ends at the next line
of exactly these. The blocks are taken out of the source, each replaced by its mark on a line of
its own, before anything else is read.
-/

set_option autoImplicit false

namespace ApiSite.Markup

/-- A fenced block of code. -/
structure Fence where
  language : Text
  code : Text

namespace Fence

/-- A line that may open a block: its indent, the run of fence characters and what follows. -/
def opener? (line : Text) : Option (Nat × Char × Nat × Text) :=
  let indent := Text.countStart (· == ' ') line
  match line.drop indent with
  | c :: rest =>
    if c = '`' ∨ c = '~' then
      let size := 1 + Text.countStart (· == c) rest
      if 3 ≤ size then some (indent, c, size, rest.drop (size - 1)) else none
    else none
  | [] => none

/-- Whether a line is `size` fence characters and spaces around them. -/
def closes (c : Char) (size : Nat) (line : Text) : Bool :=
  let line := Text.trim (· == ' ') line
  line.length == size && line.all (· == c)

/-- Characters of a language tag. -/
def isLanguageChar (c : Char) : Bool :=
  Text.isWord c || c == '#' || c == '+' || c == '.' || c == '-'

/-- The language named after an opening run: the first run of tag characters, past spaces, one
brace and one dot. -/
def languageOf (info : Text) : Text :=
  let t := info.dropWhile (· == ' ')
  let t := if t.head? = some '\x7b' then t.drop 1 else t
  let t := if t.head? = some '.' then t.drop 1 else t
  t.takeWhile isLanguageChar

/-- The lines before the first one that closes a fence, and how many lines the block has after its
opening one. -/
def bodyLines? (c : Char) (size : Nat) : List Text → Option (List Text)
  | [] => none
  | line :: rest =>
    if closes c size line then some [] else (bodyLines? c size rest).map (line :: ·)

/-- Tries the opening run in full and then shortened by one character after another, down to
three: the characters that are left over count as part of the info. -/
def shorten? (c : Char) (info : Text) (body : List Text) : Nat → Option (Text × List Text)
  | 0 => (bodyLines? c 3 body).map fun code => (languageOf info, code)
  | n + 1 =>
    match bodyLines? c (n + 4) body with
    | some code => some (languageOf info, code)
    | none => shorten? c (c :: info) body n

/-- Takes up to `indent` spaces off a line. -/
def unindent (indent : Nat) (line : Text) : Text :=
  line.drop (min indent (Text.countStart (· == ' ') line))

/-- The block that starts with `line`, its indent and how many of the following lines it takes. -/
def start? (line : Text) (rest : List Text) : Option (Nat × Fence × Nat) :=
  match opener? line with
  | none => none
  | some (indent, c, size, info) =>
    match shorten? c info rest (size - 3) with
    | none => none
    | some (language, body) =>
      some (indent, ⟨language, Text.unlines (body.map (unindent indent) ++ [[]])⟩, body.length + 1)

/-- Takes the fenced blocks out of the lines of a source: the lines that remain, and the blocks
with those of `found` before them. The counter passes over the lines of a block that was taken. -/
def extractFrom : Nat → List Fence → List Text → List Text × List Fence
  | _, found, [] => ([], found)
  | k + 1, found, _ :: rest => extractFrom k found rest
  | 0, found, line :: rest =>
    match start? line rest with
    | some (indent, fence, size) =>
      let (lines, all) := extractFrom size (found ++ [fence]) rest
      ([] :: (Text.spaces indent ++ Mark.fence found.length) :: [] :: [] :: lines, all)
    | none =>
      let (lines, all) := extractFrom 0 found rest
      (line :: lines, all)

/-- Takes the fenced blocks out of the lines of a source. -/
def extract (lines : List Text) : List Text × List Fence := extractFrom 0 [] lines

end Fence

end ApiSite.Markup
