import ApiSite.Text.LetterCase
import ApiSite.Pattern.Syntax

/-!
Matching names against patterns. Matching at a place gives every place where the match can end, the
preferred one first; a pattern occurs in a text if it matches somewhere.
-/

set_option autoImplicit false

namespace ApiSite.Pattern

/-- A place in a text, and what the groups have matched. -/
structure Spot where
  /-- The text before the place, in reverse. -/
  before : Text
  rest : Text
  groups : List (Nat × Text) := []
  deriving DecidableEq

/-- Whether a character belongs to a class. -/
def Category.holds (flags : Flags) (c : Char) : Category → Bool
  | .digit => if flags.ascii then c.isDigit else Text.isDecimal c
  | .space =>
    if flags.ascii then c.isWhitespace || c.toNat == 11 || c.toNat == 12 else Text.isBlank c
  | .word => if flags.ascii then Text.isAsciiWord c else Text.isWord c

/-- Whether two characters are the same, or the same but for their case. -/
def sameChar (flags : Flags) (a b : Char) : Bool :=
  a == b || (flags.ignoreCase && Text.lowerChar a == Text.lowerChar b)

/-- Whether a character is a member. -/
def Member.holds (flags : Flags) (c : Char) : Member → Bool
  | .category k negated => k.holds flags c != negated
  | .range a b =>
    let within (c : Char) : Bool := a.val ≤ c.val && c.val ≤ b.val
    within c || (flags.ignoreCase && (within (Text.lowerChar c) || within c.toUpper))

/-- Whether a place is of a kind. An empty text has no place away from the edge of words. -/
def Edge.holds (flags : Flags) (s : Spot) : Edge → Bool
  | .lineStart => s.before.isEmpty || (flags.multiLine && s.before.head? == some '\n')
  | .lineEnd =>
    s.rest.isEmpty || s.rest == ['\n'] || (flags.multiLine && s.rest.head? == some '\n')
  | .textStart => s.before.isEmpty
  | .textEnd => s.rest.isEmpty
  | .word => isEdge s
  | .notWord => !isEdge s && !(s.before.isEmpty && s.rest.isEmpty)
where
  isEdge (s : Spot) : Bool :=
    let isWord := fun c => Category.word.holds flags c
    s.before.head?.any isWord != s.rest.head?.any isWord

/-- The place behind a character that a condition holds of. -/
def step (p : Char → Bool) (s : Spot) : List Spot :=
  match s.rest with
  | c :: t => if p c then [⟨c :: s.before, t, s.groups⟩] else []
  | [] => []

/-- The place some characters ahead. -/
def Spot.forward : Nat → Spot → Spot
  | 0, s => s
  | n + 1, s =>
    match s.rest with
    | c :: t => Spot.forward n ⟨c :: s.before, t, s.groups⟩
    | [] => s

/-- The place some characters back. -/
def Spot.back : Nat → Spot → Option Spot
  | 0, s => some s
  | n + 1, s =>
    match s.before with
    | c :: t => Spot.back n ⟨t, c :: s.rest, s.groups⟩
    | [] => none

/-- The ends of exactly `n` matches. -/
def times (f : Spot → List Spot) : Nat → Spot → List Spot
  | 0, s => [s]
  | n + 1, s => (f s).eraseDups.flatMap (times f n)

/-- The ends of any number of matches up to a bound, each of which moves on; `fuel` is at least the
number of characters that are left. -/
def moreTimes (f : Spot → List Spot) (fewest : Bool) : Nat → Option Nat → Spot → List Spot
  | 0, _, s => [s]
  | fuel + 1, most, s =>
    if most == some 0 then [s]
    else
      let moved := (f s).eraseDups.filter fun e => e.rest.length < s.rest.length
      let later := (moved.flatMap (moreTimes f fewest fuel (most.map (· - 1)))).eraseDups
      if fewest then s :: later else later ++ [s]

/-- The places where a match of a pattern can end, the preferred one first. -/
def ends : Pattern → Spot → List Spot
  | .empty, s => [s]
  | .fail, _ => []
  | .char c flags, s => step (sameChar flags c) s
  | .oneOf negated members flags, s =>
    step (fun c => members.any (Member.holds flags c) != negated) s
  | .any flags, s => step (fun c => flags.dotAll || c != '\n') s
  | .edge e flags, s => if e.holds flags s then [s] else []
  | .seq a b, s => (ends a s).eraseDups.flatMap (ends b)
  | .either a b, s => ends a s ++ ends b s
  | .iterate least most greed body, s =>
    let all := (times (ends body) least s).flatMap fun e =>
      moreTimes (ends body) (greed == .fewest) (e.rest.length + 1) (most.map (· - least)) e
    if greed == .possessive then all.take 1 else all
  | .group i body, s =>
    (ends body s).map fun e =>
      let text := s.rest.take (s.rest.length - e.rest.length)
      { e with groups := (i, text) :: e.groups.filter (·.1 != i) }
  | .again i flags, s =>
    match s.groups.find? (·.1 == i) with
    | some (_, t) =>
      let here := s.rest.take t.length
      if here.length == t.length && (here.zip t).all fun (a, b) => sameChar flags a b then
        [s.forward t.length]
      else []
    | none => []
  | .atomic body, s => (ends body s).take 1
  | .ahead negated body, s =>
    match ends body s with
    | [] => if negated then [s] else []
    | e :: _ => if negated then [] else [{ s with groups := e.groups }]
  | .behind negated width body, s =>
    let found := (s.back width).bind fun start =>
      (ends body start).find? fun e => e.rest.length == s.rest.length
    match found with
    | some e => if negated then [] else [{ s with groups := e.groups }]
    | none => if negated then [s] else []
  | .given i yes no, s => if s.groups.any (·.1 == i) then ends yes s else ends no s

/-- Whether a pattern matches somewhere from a place on. -/
def occursFrom (p : Pattern) (before : Text) : Text → Bool
  | [] => !(ends p ⟨before, [], []⟩).isEmpty
  | c :: t => !(ends p ⟨before, c :: t, []⟩).isEmpty || occursFrom p (c :: before) t

/-- Whether a pattern matches somewhere in a text. -/
def occursIn (p : Pattern) (t : Text) : Bool := occursFrom p [] t

end ApiSite.Pattern
