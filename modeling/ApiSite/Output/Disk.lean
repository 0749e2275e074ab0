import ApiSite.Text.Basic

/-!
A tree of files below one directory, as entries by their paths. A file is written together with the
directories that it needs, unless something that is no directory stands in the way.
-/

set_option autoImplicit false

namespace ApiSite.Output

/-- A path, part by part. -/
abbrev Path := List Text

namespace Path

/-- The parts with slashes between them. -/
def toText (p : Path) : Text := Text.join "/" p

/-- Order by parts, a path before what lies below it. -/
def le : Path → Path → Bool
  | [], _ => true
  | _ :: _, [] => false
  | a :: p, b :: q => if a = b then le p q else Text.le a b

/-- The path of `p` from `base` on, if it lies there. -/
def after? : (base p : Path) → Option Path
  | [], p => some p
  | _ :: _, [] => none
  | a :: base, b :: p => if a = b then after? base p else none

/-- Whether `p` lies below `base` and is not `base` itself. -/
def isBelow (base p : Path) : Bool :=
  match after? base p with
  | some (_ :: _) => true
  | _ => false

end Path

/-- What can be at a path. -/
inductive Entry where
  | file (text : Text)
  | dir
  | link (target : Text)
  deriving DecidableEq, Repr

/-- A tree of files. The empty path is the directory that the tree is in. -/
structure Disk where
  entries : List (Path × Entry) := []
  deriving Inhabited

namespace Disk

/-- What is at a path. -/
def find? (d : Disk) (p : Path) : Option Entry := (d.entries.find? (·.1 == p)).map (·.2)

def isDir (d : Disk) (p : Path) : Bool := d.find? p == some .dir

/-- The text of a file. -/
def text? (d : Disk) (p : Path) : Option Text :=
  match d.find? p with
  | some (.file t) => some t
  | _ => none

/-- The target of a link. -/
def link? (d : Disk) (p : Path) : Option Text :=
  match d.find? p with
  | some (.link t) => some t
  | _ => none

/-- Gives an entry a value: in its place if it is there, and at the end otherwise. -/
def assign (p : Path) (e : Entry) : List (Path × Entry) → List (Path × Entry)
  | [] => [(p, e)]
  | (q, f) :: rest => if q = p then (q, e) :: rest else (q, f) :: assign p e rest

/-- Puts something at a path. -/
def set (d : Disk) (p : Path) (e : Entry) : Disk := ⟨assign p e d.entries⟩

/-- Removes what is at a path. -/
def erase (d : Disk) (p : Path) : Disk := ⟨d.entries.filter fun e => e.1 != p⟩

/-- Makes a directory, unless there is one. It cannot be made where something else is. -/
def makeDir? (d : Disk) (p : Path) : Option Disk :=
  match d.find? p with
  | none => some (d.set p .dir)
  | some .dir => some d
  | some _ => none

/-- Makes a directory and, one after the other, those on the way from it to another one. -/
def makeDirsFrom? (d : Disk) (start : Path) : Path → Option Disk
  | [] => d.makeDir? start
  | name :: rest => (d.makeDir? start).bind fun d => d.makeDirsFrom? (start ++ [name]) rest

/-- Makes a directory with those that it needs. -/
def makeDirs? (d : Disk) (p : Path) : Option Disk := d.makeDirsFrom? [] p

/-- Writes a file with the directories that it needs. It cannot be written where a directory is. -/
def write? (d : Disk) (p : Path) (t : Text) : Option Disk :=
  (d.makeDirs? p.dropLast).bind fun d => if d.isDir p then none else some (d.set p (.file t))

/-- The entries below a path. -/
def below (d : Disk) (base : Path) : List (Path × Entry) :=
  d.entries.filter fun e => Path.isBelow base e.1

/-- The paths of the files below a path, in order. -/
def filesBelow (d : Disk) (base : Path) : List Path :=
  let files := (d.below base).filterMap fun (p, e) =>
    match e with
    | .file _ => some p
    | _ => none
  files.mergeSort Path.le

/-- The paths of the directories below a path, the deepest first. -/
def dirsBelow (d : Disk) (base : Path) : List Path :=
  let dirs := (d.below base).filterMap fun (p, e) =>
    match e with
    | .dir => some p
    | _ => none
  dirs.mergeSort fun p q => q.length ≤ p.length

/-- Removes a directory with nothing in it. -/
def removeIfEmpty (d : Disk) (p : Path) : Disk := if (d.below p).isEmpty then d.erase p else d

/-- Removes the empty directories below a path, and those that become empty by this. -/
def removeEmptyDirs (d : Disk) (base : Path) : Disk := (d.dirsBelow base).foldl removeIfEmpty d

/-- Removes what is at a path with all below it. -/
def remove (d : Disk) (p : Path) : Disk :=
  ⟨d.entries.filter fun e => (Path.after? p e.1).isNone⟩

end Disk

end ApiSite.Output
