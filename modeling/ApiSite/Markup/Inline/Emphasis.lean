import ApiSite.Text.Blank
import ApiSite.Text.WordChar
import ApiSite.Markup.Inline.Piece

/-!
Emphasis: one mark on each side of a text for emphasis, two for strong emphasis, and more for one
within the other. Marks stand in runs. A run can open emphasis where no white space follows it and
close it where none stands before it; underscores do so only at the edges of words. A run that
closes goes with the nearest run before it that it fits, and what lies between the two becomes an
element; a run that has no partner is text.
-/

set_option autoImplicit false

namespace ApiSite.Markup.Inline

/-- The mark that a kind of emphasis is written with. -/
inductive EmphasisMark where
  | asterisk | underscore
  deriving DecidableEq

def EmphasisMark.char : EmphasisMark → Char
  | .asterisk => '*'
  | .underscore => '_'

/-- The mark that a piece is, if it is one. -/
def EmphasisMark.of? (p : Piece) : Option EmphasisMark :=
  if p.is '*' then some .asterisk else if p.is '_' then some .underscore else none

/-- A run of equal marks with nothing between them. -/
structure MarkRun where
  mark : EmphasisMark
  /-- How many marks the text has here. -/
  length : Nat
  /-- How many of them belong to no element yet. -/
  unused : Nat
  opens : Bool
  closes : Bool

/-- The run of a mark at the head of a sequence, given the piece before it. The ends of a text count
as white space. -/
def MarkRun.at (mark : EmphasisMark) (previous : Option Piece) (ps : Pieces) : MarkRun :=
  let length := Pieces.countStart (· == mark.char) ps
  let following := ps[length]?
  let isApart (p : Option Piece) : Bool := p.all (·.satisfies Text.isBlank)
  let isOutside (p : Option Piece) : Bool :=
    mark == .asterisk || !p.any (·.satisfies Text.isWord)
  ⟨mark, length, length, !isApart following && isOutside previous,
    !isApart previous && isOutside following⟩

/-- The marks of a run that belong to no element. -/
def MarkRun.pieces (run : MarkRun) : Pieces := List.replicate run.unused (.char run.mark.char)

/-- Whether emphasis can lie between two runs that open and close. Where one of them could do
both, their lengths must not add up to a multiple of three, unless each is one. -/
def MarkRun.fits (opener closer : MarkRun) : Bool :=
  opener.mark == closer.mark &&
    (!(opener.closes || closer.opens) || (opener.length + closer.length) % 3 != 0 ||
      (opener.length % 3 == 0 && closer.length % 3 == 0))

/-- How many marks of each of two runs go to the element between them: two for strong emphasis where
both have them. Of three, the first goes to emphasis within strong emphasis. -/
def MarkRun.shared (opener closer : MarkRun) : Nat :=
  let common := min opener.unused closer.unused
  if common = 3 then 1 else min common 2

/-- The element for a number of marks. -/
def emphasisTag (marks : Nat) : Text := if marks = 1 then "em" else "strong"

/-- A run that may open emphasis, and the pieces behind it, the latest first. -/
structure OpenRun where
  run : MarkRun
  inside : Pieces := []

/-- The pieces of a run that stays text, and those behind it. -/
def OpenRun.pieces (o : OpenRun) : Pieces := o.run.pieces ++ o.inside.reverse

/-- A text read up to some place: the pieces before the first open run, the latest first, the open
runs, the innermost first, and the number of the next piece. -/
structure Nesting where
  outside : Pieces := []
  opened : List OpenRun := []
  next : Nat

namespace Nesting

/-- Adds pieces behind what has been read. -/
def add (ps : Pieces) (s : Nesting) : Nesting :=
  match s.opened with
  | [] => { s with outside := ps.reverse ++ s.outside }
  | o :: outer => { s with opened := { o with inside := ps.reverse ++ o.inside } :: outer }

/-- Closes emphasis with a run, from the nearest open run that fits to the farthest, as long as the
run has marks for it: what is left of the run. Open runs in between become text. `fuel` bounds the
number of elements. -/
def close : (fuel : Nat) → MarkRun → Nesting → MarkRun × Nesting
  | 0, closer, s => (closer, s)
  | fuel + 1, closer, s =>
    match s.opened.dropWhile fun o => !o.run.fits closer with
    | [] => (closer, s)
    | o :: outer =>
      let between := s.opened.takeWhile fun o => !o.run.fits closer
      let marks := o.run.shared closer
      let text := o.inside.reverse ++ between.reverse.flatMap OpenRun.pieces
      let piece := Piece.element s.next (.ofPieces (emphasisTag marks) text)
      let left := o.run.unused - marks
      let opened := if left = 0 then outer else ⟨{ o.run with unused := left }, []⟩ :: outer
      let s := { s with opened := opened, next := s.next + 1 }.add [piece]
      let closer := { closer with unused := closer.unused - marks }
      if closer.unused = 0 then (closer, s) else close fuel closer s

/-- Takes in a run of marks: it closes what it can, and what is left of it may open emphasis. -/
def take (run : MarkRun) (s : Nesting) : Nesting :=
  let (run, s) := if run.closes then s.close run.length run else (run, s)
  if run.opens && run.unused ≠ 0 then { s with opened := ⟨run, []⟩ :: s.opened }
  else s.add run.pieces

/-- The pieces of a text that has been read. -/
def pieces (s : Nesting) : Pieces :=
  s.outside.reverse ++ s.opened.reverse.flatMap OpenRun.pieces

end Nesting

/-- Reads the marks of a text in turn, given the piece before it and how many pieces belong to a run
that has been taken in. -/
def readMarks : Option Piece → (taken : Nat) → Pieces → Nesting → Nesting
  | _, _, [], s => s
  | _, taken + 1, p :: ps, s => readMarks (some p) taken ps s
  | previous, 0, p :: ps, s =>
    match EmphasisMark.of? p with
    | none => readMarks (some p) 0 ps (s.add [p])
    | some mark =>
      let run := MarkRun.at mark previous (p :: ps)
      readMarks (some p) (run.length - 1) ps (s.take run)

/-- Reads the emphasis in a text: the text with its elements, and the number of the next piece. -/
def readEmphasis (ps : Pieces) (next : Nat) : Pieces × Nat :=
  let s := readMarks none 0 ps { next := next }
  (s.pieces, s.next)

end ApiSite.Markup.Inline
