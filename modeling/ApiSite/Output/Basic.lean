import ApiSite.Count
import ApiSite.Data.Display
import ApiSite.Output.Resolve
import ApiSite.Stats

/-!
The state of a run's output: the tree of files, the files that the run wants, and what it has
counted and said.
-/

set_option autoImplicit false

namespace ApiSite

namespace Output

/-- A file that the run wants. -/
structure Intent where
  content : Text
  /-- A scaffold file belongs to the site once it exists. -/
  isScaffold : Bool
  deriving DecidableEq, Repr

/-- Why an operation is refused or fails. -/
inductive Error where
  /-- The directory of the output is something else. -/
  | noDirectory (root : Path)
  /-- A write comes after the end of writing. -/
  | finalized
  /-- Stale files are to be deleted before the end of writing. -/
  | unfinished
  /-- A path does not lie below the directory of the output. -/
  | outside (path : Text)
  /-- A path holds a null character. -/
  | nullCharacter
  /-- A link leads back to itself. -/
  | circle (path : Path)
  /-- Something stands in the way. -/
  | blocked
  deriving DecidableEq, Repr

def Error.message : Error → Text
  | noDirectory root => "Output path is not a directory: " ++ root.toText
  | finalized => "Writer is finalized; no further writes are allowed"
  | unfinished =>
    "delete_stale() called before finalize(): the write-intent set is incomplete"
  | outside path => "Refusing to touch a path outside the output root: " ++ path
  | nullCharacter => "lstat: embedded null character in path"
  | circle path => "Symlink loop from " ++ Value.quotedText path.toText
  | blocked => "Something stands in the way"

/-- What is said about an operation. -/
inductive Notice where
  | writtenTwice (path : Path)
  | lineRestored (path : Path) (line : Text)
  | deleted (path : Path)
  deriving DecidableEq, Repr

def Notice.isWarning : Notice → Bool
  | writtenTwice _ => true
  | _ => false

def Notice.message : Notice → Text
  | writtenTwice path => "Output file written twice in one run: " ++ path.toText
  | lineRestored path line => "Restored missing line in " ++ path.toText ++ ": " ++ line
  | deleted path => "Deleted stale file: " ++ path.toText

end Output

/-- The output of a run. -/
structure Output where
  /-- The directory of the output, from the root of all files on. -/
  root : Output.Path
  disk : Output.Disk := {}
  /-- The directories whose files all come from runs. -/
  managed : List Text := []
  /-- The files that the run wants, in the order in which they were first named. -/
  intents : List (Output.Path × Output.Intent) := []
  isFinal : Bool := false
  stats : Stats := {}
  notices : List Output.Notice := []
  deriving Inhabited

/-- Writing can fail, and keeps what was done before. -/
abbrev Writing := ExceptT Output.Error (StateM Output)

namespace Output

/-- The target of the link at a path from the root of all files on. -/
def linkAt? (o : Output) (p : Path) : Option Text := (Path.after? o.root p).bind o.disk.link?

/-- How many links there are. -/
def linkCount (o : Output) : Nat :=
  o.disk.entries.countP fun e =>
    match e.2 with
    | .link _ => true
    | _ => false

/-- Where a path leads, from the root of all files on. -/
def follow (o : Output) (path : Text) : Except Path Path :=
  Path.follow o.linkAt? o.linkCount [] (Path.startOf path o.root) (Text.splitOn '/' path)

/-- Where a path leads below the directory of the output. -/
def locate (o : Output) (path : Text) : Except Error Path :=
  if path.contains '\x00' then .error .nullCharacter
  else
    match o.follow path with
    | .error found => .error (.circle found)
    | .ok found =>
      match Path.after? o.root found with
      | some (part :: rest) => .ok (part :: rest)
      | _ => .error (.outside path)

/-- Gives a path an intent: in its place if it has one, and at the end otherwise. -/
def assignIntent (p : Path) (i : Intent) : List (Path × Intent) → List (Path × Intent)
  | [] => [(p, i)]
  | (q, j) :: rest => if q = p then (q, i) :: rest else (q, j) :: assignIntent p i rest

/-- Whether the run wants a file. -/
def isWanted (o : Output) (p : Path) : Bool := o.intents.any (·.1 == p)

def say (n : Notice) (o : Output) : Output := { o with notices := o.notices ++ [n] }

/-- How many bytes a name can have. -/
def maxNameBytes : Nat := 255

/-- The part of a path before the first name that is too long for a file. -/
def reach (p : Path) : Path := p.takeWhile fun name => total (name.map Char.utf8Size) ≤ maxNameBytes

/-- Whether a path has a name that is too long for a file. -/
def isTooLong (p : Path) : Bool := reach p != p

/-- What is at a path. It is an error to ask a directory for a name that is too long. -/
def look (o : Output) (p : Path) : Except Error (Option Entry) :=
  if isTooLong p && o.disk.isDir (reach p) then .error .blocked else .ok (o.disk.find? p)

end Output

end ApiSite
