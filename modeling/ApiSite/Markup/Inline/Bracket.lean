import ApiSite.Text.LetterCase
import ApiSite.Markup.Inline.Piece

/-!
Bracketed text and what may follow it: the target and title of a link in parentheses, or the label
of a definition in brackets.
-/

set_option autoImplicit false

namespace ApiSite.Markup.Inline

/-- The text up to the bracket that closes one opened before, with brackets in it paired, and the
length it takes with that bracket. -/
def bracketText? : Nat → Pieces → Option (Pieces × Nat)
  | _, [] => none
  | depth, p :: ps =>
    if p.is ']' then
      match depth with
      | 0 => some ([], 1)
      | depth + 1 => (bracketText? depth ps).map fun (t, n) => (p :: t, n + 1)
    else
      (bracketText? (if p.is '[' then depth + 1 else depth) ps).map fun (t, n) => (p :: t, n + 1)

/-- How many pieces of white space begin a sequence. -/
def blankCount (ps : Pieces) : Nat := Pieces.countStart Text.isBlank ps

/-- A link's target and title as they are written, and the length they take with the closing
parenthesis. -/
structure Target where
  target : Pieces
  title : Option Pieces
  size : Nat

/-- A quoted text at the head of a sequence: its inside and its length. -/
def quoted? (ps : Pieces) : Option (Pieces × Nat) :=
  match ps with
  | .char q :: rest =>
    if q = '\'' ∨ q = '"' then
      let inner := rest.takeWhile fun p => !p.is q
      if (rest.drop inner.length).isEmpty then none else some (inner, inner.length + 2)
    else none
  | _ => none

/-- A target in angle brackets at the head of a sequence, perhaps a title, and the parenthesis. -/
def angleTarget? (ps : Pieces) : Option Target :=
  match ps with
  | .char '<' :: rest =>
    let inner := rest.takeWhile fun p => !(p.is '<' || p.is '>')
    match rest.drop inner.length with
    | .char '>' :: after =>
      let gap := blankCount after
      let (title, size) := match quoted? (after.drop gap) with
        | some (t, n) => (some t, gap + n + blankCount (after.drop (gap + n)))
        | none => (none, gap)
      match after.drop size with
      | .char ')' :: _ => some ⟨inner, title, inner.length + 2 + size + 1⟩
      | _ => none
    | _ => none
  | _ => none

/-- A quotation mark met within parentheses: which one, the position after it, and the position
after its latest repetition. -/
structure QuoteState where
  mark : Char
  start : Nat
  stop : Option Nat

/-- How far the reading of a target in parentheses has come. `depth` counts the open parentheses and
`spare` those that would be open if the title did not count; `fallback` is the end of the target in
that case. -/
structure TargetState where
  depth : Nat := 1
  spare : Nat := 1
  first : Option QuoteState := none
  second : Option QuoteState := none
  /-- The last piece other than a space, if it is a character. -/
  last : Option Char := none
  fallback : Nat := 0

namespace TargetState

/-- Whether a quotation is closed directly before the position. -/
def closedBy (s : TargetState) (q : Option QuoteState) : Bool :=
  match q with
  | some q => q.stop.isSome && s.last == some q.mark
  | none => false

/-- The state after a parenthesis that opens. -/
def openParen (s : TargetState) : TargetState :=
  if s.first.isNone then { s with depth := s.depth + 1 } else { s with spare := s.spare - 1 }

/-- The state after a parenthesis that closes, at position `i`. -/
def closeParen (i : Nat) (s : TargetState) : TargetState :=
  if s.closedBy s.first || s.closedBy s.second then { s with depth := 0 }
  else if s.first.isNone then { s with depth := s.depth - 1 }
  else if 0 < s.spare then
    { s with spare := s.spare - 1, fallback := if s.spare = 1 then i + 1 else s.fallback }
  else s

/-- The state after a quotation mark at position `i`. -/
def quote (c : Char) (i : Nat) (s : TargetState) : TargetState :=
  match s.first with
  | none => { s with first := some ⟨c, i + 1, none⟩, spare := s.depth, depth := 1 }
  | some q =>
    if c = q.mark then { s with first := some { q with stop := some (i + 1) } }
    else
      match s.second with
      | none => { s with second := some ⟨c, i + 1, none⟩ }
      | some r => { s with second := some { r with stop := some (i + 1) } }

/-- The state after the piece at position `i`. -/
def step (p : Piece) (i : Nat) (s : TargetState) : TargetState :=
  if p.is '(' then s.openParen
  else if p.is ')' then s.closeParen i
  else
    match p with
    | .char c => if c = '\'' ∨ c = '"' then s.quote c i else s
    | _ => s

/-- The target and title that lie before the closing parenthesis at position `i`. -/
def finish (all : Pieces) (i : Nat) (s : TargetState) : Target :=
  let titled (q : QuoteState) : Target :=
    ⟨all.take (q.start - 1),
      some ((all.drop q.start).take ((q.stop.getD q.start) - 1 - q.start)), i + 1⟩
  match s.first, s.second with
  | some q, second =>
    if s.closedBy (some q) then titled q
    else
      match second with
      | some r => if s.closedBy (some r) then titled r else ⟨all.take i, none, i + 1⟩
      | none => ⟨all.take i, none, i + 1⟩
  | none, _ => ⟨all.take i, none, i + 1⟩

end TargetState

/-- Reads a target with paired parentheses from position `i` of `all` on. Where they are not paired
but for the title, the target ends at the fallback, or two before the end if there is none. -/
def scanTarget (all : Pieces) : Nat → TargetState → Pieces → Option Target
  | _, s, [] =>
    if s.spare ≠ 0 then none
    else if s.fallback = 0 then some ⟨all.take (all.length - 2), none, all.length - 1⟩
    else some ⟨all.take (s.fallback - 1), none, s.fallback⟩
  | i, s, p :: ps =>
    let next := s.step p i
    if next.depth = 0 then some ({ next with last := s.last }.finish all i)
    else scanTarget all (i + 1) { next with last := if p.is ' ' then s.last else p.char? } ps

/-- Text in matching quotes, without these. -/
def unquoted (t : Text) : Text :=
  match t, t.getLast? with
  | a :: _, some z => if a = z ∧ (a = '"' ∨ a = '\'') then (t.drop 1).dropLast else t
  | _, _ => t

/-- The target and title of a link in parentheses at the head of a sequence, and the length they
take. -/
def linkTarget? (ps : Pieces) : Option (Text × Option Text × Nat) :=
  match ps with
  | .char '(' :: rest =>
    let gap := blankCount rest
    let body := rest.drop gap
    let read (t : Target) : Text × Option Text × Nat :=
      (Text.strip (Pieces.spelled t.target),
        t.title.map fun title =>
          (unquoted (Pieces.spelled (Pieces.strip title))).map fun c =>
            if Text.isBlank c then ' ' else c,
        1 + gap + t.size)
    match angleTarget? body with
    | some t => some (read { t with target := Pieces.strip t.target })
    | none => (scanTarget body 0 {} body).map read
  | _ => none

/-- The label in brackets that follows a link's text after at most one space, and the length it
takes. -/
def linkLabel? (ps : Pieces) : Option (Pieces × Nat) :=
  let gap := min 1 (blankCount ps)
  match ps.drop gap with
  | .char '[' :: rest =>
    let label := rest.takeWhile fun p => !p.is ']'
    if (rest.drop label.length).isEmpty then none else some (label, gap + label.length + 2)
  | _ => none

/-- A text with each run of white space made one space. -/
def singleSpaces : Text → Text
  | [] => []
  | c :: t =>
    if Text.isBlank c then
      match singleSpaces t with
      | ' ' :: rest => ' ' :: rest
      | rest => ' ' :: rest
    else c :: singleSpaces t

end ApiSite.Markup.Inline
