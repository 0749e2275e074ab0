import ApiSite.Location.Basic
import ApiSite.Stats

/-!
The report of a run: everything that is to be found on the site, and what the run has counted.
-/

set_option autoImplicit false

namespace ApiSite

/-- The report of a run. -/
structure Report where
  /-- The digest of the settings. -/
  digest : Text
  targets : List LinkTarget
  stats : Option Stats

/-- The counts of a run as values by name. -/
def Stats.toValue (s : Stats) : Value :=
  let count (name : Text) (n : Nat) : Text × Value := (name, .int n)
  let top := (s.topUnresolved 10).map fun (name, n) => Value.list [.text name, .int n]
  Settings.section_ [count "references_total" s.references, count "references_resolved" s.resolved,
    ("resolution_rate", .real s.roundedRate), ("top_unresolved", .list top),
    count "sanitizer_removals" s.removals, count "collisions" s.collisions,
    count "files_written" s.written, count "files_unchanged" s.unchanged,
    count "files_deleted" s.deleted]

namespace Report

/-- A text that may be missing. -/
def optional (t : Option Text) : Value := (t.map Value.text).getD .null

/-- A target as values by name. -/
def targetValue (t : LinkTarget) : Value :=
  Settings.section_ [("qualified_name", .text t.qualifiedName), ("kind", .text t.kind),
    ("path", optional t.filePath), ("url", .text t.url), ("anchor", optional t.anchor)]

/-- How many targets there are of each kind. -/
def kindCounts (targets : List LinkTarget) : List (Text × Nat) :=
  targets.foldl (fun counts t => Stats.countName t.kind counts) []

/-- How many targets are pages. -/
def pageCount (targets : List LinkTarget) : Nat := targets.countP fun t => t.anchor.isNone

/-- The report as values by name. -/
def toValue (r : Report) : Value :=
  let pages := pageCount r.targets
  let kinds := (kindCounts r.targets).map fun (kind, n) => (kind, Value.int n)
  let counts : List (Text × Value) := [("kind_counts", Settings.section_ kinds),
    ("pages", .int pages), ("anchors", .int (r.targets.length - pages : Nat))]
  let run : List (Text × Value) := (r.stats.map fun s => (("run" : Text), s.toValue)).toList
  Settings.section_ [
    ("meta", Settings.section_ [("config_hash", .text r.digest),
      ("total_items", .int r.targets.length)]),
    ("results", .list (r.targets.map targetValue)), ("stats", Settings.section_ (counts ++ run))]

end Report

end ApiSite
