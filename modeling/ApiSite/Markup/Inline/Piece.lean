import ApiSite.Text.Blank
import ApiSite.Markup.Element
import ApiSite.Markup.Mark

/-!
Text under inline reading. What a rule has recognised stands in the text as a single piece that no
later rule looks into, and its own inside is again text under reading. Each such piece has a number,
by which it is known where a piece of text has to be written out as plain characters.
-/

set_option autoImplicit false

namespace ApiSite.Markup

mutual

/-- A unit of text under inline reading. -/
inductive Piece where
  | char (c : Char)
  /-- Text that is set aside as it is. -/
  | literal (number : Nat) (text : Text)
  | element (number : Nat) (node : Draft)

/-- A text under reading. A closed one is not read again. -/
inductive Run where
  | mk (closed : Bool) (pieces : List Piece)

/-- An element whose texts are under reading. -/
inductive Draft where
  | mk (tag : Text) (attrs : Attrs) (text : Option Run) (children : List Draft)
      (tail : Option Run)

end

instance : Inhabited Piece := ⟨.char ' '⟩
instance : Inhabited Draft := ⟨.mk [] [] none [] none⟩

/-- A text under reading, as a sequence. -/
abbrev Pieces := List Piece

namespace Piece

/-- The character that a piece is, if it is one. -/
def char? : Piece → Option Char
  | char c => some c
  | _ => none

/-- Whether a piece is the given character. -/
def is (c : Char) : Piece → Bool
  | char d => d == c
  | _ => false

/-- Whether a piece is a character of a class. -/
def satisfies (p : Char → Bool) : Piece → Bool
  | char c => p c
  | _ => false

/-- Whether a piece is no character of a class: what was recognised before belongs to none. -/
def avoids (p : Char → Bool) (x : Piece) : Bool := !x.satisfies p

end Piece

namespace Pieces

/-- A plain text under reading. -/
def ofText (t : Text) : Pieces := t.map .char

/-- The text, where nothing in it has been recognised. -/
def plain? : Pieces → Option Text
  | [] => some []
  | .char c :: rest => (plain? rest).map (c :: ·)
  | _ :: _ => none

/-- The text with a mark for each piece that was recognised. -/
def marked : Pieces → Text
  | [] => []
  | .char c :: rest => c :: marked rest
  | .literal n _ :: rest => Mark.inlineMarkup n ++ marked rest
  | .element n _ :: rest => Mark.inlineMarkup n ++ marked rest

/-- Whether a sequence holds white space only. -/
def isBlank (ps : Pieces) : Bool := ps.all (·.satisfies Text.isBlank)

/-- The sequence without white space at its ends. -/
def strip (ps : Pieces) : Pieces :=
  let blank (p : Piece) := p.satisfies Text.isBlank
  (((ps.dropWhile blank).reverse).dropWhile blank).reverse

/-- What follows the given characters at the head of a sequence. -/
def after? : Text → Pieces → Option Pieces
  | [], ps => some ps
  | _ :: _, [] => none
  | c :: t, p :: ps => if p.is c then after? t ps else none

/-- The pieces before the first occurrence of a text, and those after it. -/
def cut? (t : Text) : Pieces → Option (Pieces × Pieces)
  | [] => if t.isEmpty then some ([], []) else none
  | p :: ps =>
    match after? t (p :: ps) with
    | some rest => some ([], rest)
    | none => (cut? t ps).map fun (before, rest) => (p :: before, rest)

/-- Whether a sequence begins with a piece of a class. -/
def beginsWith (p : Piece → Bool) (ps : Pieces) : Bool := ps.head?.any p

/-- How many pieces at the head are characters of a class. -/
def countStart (p : Char → Bool) (ps : Pieces) : Nat := (ps.takeWhile (·.satisfies p)).length

end Pieces

namespace Draft

def tag : Draft → Text
  | mk t _ _ _ _ => t

/-- An element with a text under reading. -/
def ofPieces (tag : Text) (ps : Pieces) : Draft := mk tag [] (some (.mk false ps)) [] none

/-- An element with a text that is not read again. -/
def closed (tag : Text) (attrs : Attrs) (ps : Pieces) : Draft :=
  mk tag attrs (some (.mk true ps)) [] none

/-- The pieces of a run that may be there. -/
def piecesOf : Option Run → Pieces
  | none => []
  | some (.mk _ ps) => ps

end Draft

mutual

/-- The texts inside an element in document order, marks for what was recognised in them. -/
def Draft.markedText : Draft → Text
  | .mk _ _ text children _ => Pieces.marked (Draft.piecesOf text) ++ Draft.markedTexts children

def Draft.markedTexts : List Draft → Text
  | [] => []
  | .mk t a text children tail :: rest =>
    Draft.markedText (.mk t a text children tail) ++ Pieces.marked (Draft.piecesOf tail) ++
      Draft.markedTexts rest

end

/-- The text with the text of each piece in its place: what a reader would see of it. -/
def Pieces.spelled : Pieces → Text
  | [] => []
  | .char c :: rest => c :: spelled rest
  | .literal _ t :: rest => t ++ spelled rest
  | .element _ e :: rest => e.markedText ++ spelled rest

end ApiSite.Markup
