import ApiSite.Stats
import ApiSite.Sanitize

/-!
Rendering counts references and removals as it goes, also where it fails later on.
-/

set_option autoImplicit false

namespace ApiSite.Doc

/-- Why something cannot be rendered. -/
inductive Error where
  /-- The first number of a list is written in digits that have no place in decimal numbers. -/
  | listStart
  /-- A value has a shape that makes no sense where it stands. -/
  | shape
  deriving DecidableEq, Repr

/-- What rendering has counted, and what it has removed in order. -/
structure Progress where
  stats : Stats := {}
  removals : List Sanitize.Removal := []
  deriving Inhabited

/-- Rendering can fail, and keeps count. -/
abbrev Rendering := ExceptT Error (StateM Progress)

/-- Counts a reference. -/
def Progress.record (name : Text) (isResolved : Bool) (p : Progress) : Progress :=
  { p with stats := p.stats.record name isResolved }

/-- Counts removals. -/
def Progress.remove (removals : List Sanitize.Removal) (p : Progress) : Progress :=
  { stats := { p.stats with removals := p.stats.removals + removals.length },
    removals := p.removals ++ removals }

end ApiSite.Doc
