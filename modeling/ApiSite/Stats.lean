import ApiSite.Data.Binary64

/-!
What one run counts: references and how many of them lead somewhere, removals of unsafe markup,
collisions of names, and files.
-/

set_option autoImplicit false

namespace ApiSite

/-- The counts of a run. -/
structure Stats where
  references : Nat := 0
  resolved : Nat := 0
  /-- The references that lead nowhere, each with how often it occurs. -/
  unresolved : List (Text × Nat) := []
  removals : Nat := 0
  collisions : Nat := 0
  written : Nat := 0
  unchanged : Nat := 0
  deleted : Nat := 0
  deriving Inhabited

namespace Stats

/-- Counts one more occurrence of a name. -/
def countName (name : Text) : List (Text × Nat) → List (Text × Nat)
  | [] => [(name, 1)]
  | (n, k) :: rest => if n == name then (n, k + 1) :: rest else (n, k) :: countName name rest

/-- Counts a reference. -/
def record (s : Stats) (name : Text) (isResolved : Bool) : Stats :=
  let s := { s with references := s.references + 1 }
  if isResolved then { s with resolved := s.resolved + 1 }
  else { s with unresolved := countName name s.unresolved }

/-- The share of references that lead somewhere; all do where there are none. -/
def rate (s : Stats) : Binary64 :=
  if s.references = 0 then Binary64.ofInt 1 else Binary64.ofRatio false s.resolved s.references

/-- The share of references that lead somewhere, to four places. -/
def roundedRate (s : Stats) : Binary64 := s.rate.roundTo 4

/-- The share of references that lead somewhere, in per cent. -/
def percent (s : Stats) : Text := (s.rate.scale 100).toFixed 1 ++ ['%']

/-- More frequent names first, and names of one frequency by code point. -/
def mayPrecede (a b : Text × Nat) : Bool := a.2 > b.2 || (a.2 == b.2 && Text.le a.1 b.1)

/-- The first items of a list; a negative limit counts from the end. -/
def upTo {α : Type} (limit : Int) (l : List α) : List α :=
  match limit with
  | .ofNat n => l.take n
  | .negSucc n => l.take (l.length - (n + 1))

/-- The references that lead nowhere, the most frequent ones first. -/
def topUnresolved (s : Stats) (limit : Int) : List (Text × Nat) :=
  upTo limit (s.unresolved.mergeSort mayPrecede)

end Stats

end ApiSite
