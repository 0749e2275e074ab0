import ApiSite.Output.Basic
import ApiSite.Scaffold
import ApiSite.Text.Blank

/-!
Writing what changed and removing what is no longer wanted. Generated files are in managed
directories, and each run leaves exactly the files there that it wants. Scaffold files are written
once, where there is none, and belong to the site from then on.
-/

set_option autoImplicit false

namespace ApiSite.Output

/-- The managed directories that a list names. -/
def managedDirs (dirs : List Text) : List Text :=
  (dirs.map (Text.trim (· == '/'))).filter fun d => !d.isEmpty

/-- Begins a run. -/
def start (dirs : List Text) : Writing Unit := do
  let o ← get
  match o.disk.find? [] with
  | none | some .dir =>
    set { o with managed := managedDirs dirs, intents := [], isFinal := false }
  | some _ => throw (.noDirectory o.root)

/-- Fails once writing has ended. -/
def checkOpen : Writing Unit := do
  if (← get).isFinal then throw .finalized

/-- Where a path leads below the directory of the output. -/
def located (path : Text) : Writing Path := do
  match (← get).locate path with
  | .ok p => return p
  | .error e => throw e

/-- Wants a file. -/
def want (p : Path) (i : Intent) : Writing Unit :=
  modify fun o => { o with intents := assignIntent p i o.intents }

/-- What is at a path. -/
def looked (p : Path) : Writing (Option Entry) := do
  match (← get).look p with
  | .ok e => return e
  | .error e => throw e

/-- Puts a text into a file and counts it. Before a name that is too long, the directories are
made. -/
def put (p : Path) (text : Text) : Writing Unit := do
  if isTooLong p then
    modify fun o => { o with disk := (o.disk.makeDirs? (reach p)).getD o.disk }
    throw .blocked
  match (← get).disk.write? p text with
  | some disk => modify fun o =>
    { o with disk := disk, stats := { o.stats with written := o.stats.written + 1 } }
  | none => throw .blocked

/-- Brings the file at a place to a text; says whether it had to be changed. -/
def update (p : Path) (text : Text) : Writing Bool := do
  if (← looked p) == some (.file text) then
    modify fun o => { o with stats := { o.stats with unchanged := o.stats.unchanged + 1 } }
    return false
  put p text
  return true

/-- Puts a file where there is nothing yet; says whether it did. -/
def create (p : Path) (text : Text) : Writing Bool := do
  if (← looked p).isSome then return false
  put p text
  return true

/-- Lines with another one behind the last that begins with `import `, or in front where none
does. -/
def insertImport (line : Text) (lines : List Text) : List Text :=
  let isOther (l : Text) : Bool := !Text.startsWith "import " l
  let rest := (lines.reverse.takeWhile isOther).reverse
  lines.take (lines.length - rest.length) ++ line :: rest

/-- Makes sure that the file at a place, if there is one, has an import; says whether it had to be
put in. -/
def restoreImport (p : Path) (line : Text) : Writing Bool := do
  match ← looked p with
  | none => return false
  | some (.file text) =>
    let lines := Text.lines (Text.unifyLineEnds text)
    if lines.any fun l => Text.strip l == Text.strip line then return false
    modify fun o =>
      say (.lineRestored p line)
        { o with disk := o.disk.set p (.file (Text.unlines (insertImport line lines))) }
    return true
  | some _ => throw .blocked

/-- Writes a generated file; says whether it had to be changed. -/
def write (path text : Text) : Writing Bool := do
  checkOpen
  let p ← located path
  if (← get).isWanted p then modify (say (.writtenTwice p))
  want p ⟨text, false⟩
  update p text

/-- Writes a scaffold file where there is nothing yet; says whether it did. -/
def writeScaffold (path text : Text) : Writing Bool := do
  checkOpen
  let p ← located path
  want p ⟨text, true⟩
  create p text

/-- Makes sure that a file that exists has an import; says whether it had to be put in. -/
def patchImport (path line : Text) : Writing Bool := do
  checkOpen
  let p ← located path
  restoreImport p line

/-- Ends writing: all that is wanted is known. -/
def finalize : Writing Unit := modify fun o => { o with isFinal := true }

/-- Deletes a file unless it is wanted. -/
def deleteUnwanted (deleted : List Path) (p : Path) : Writing (List Path) := do
  if (← get).isWanted p then return deleted
  modify fun o => say (.deleted p) { o with disk := o.disk.erase p }
  return deleted ++ [p]

/-- Deletes the unwanted files of a managed directory, and its empty directories. -/
def cleanDir (deleted : List Path) (dir : Text) : Writing (List Path) := do
  let base ← located dir
  if (← looked base) != some .dir then return deleted
  let deleted ← ((← get).disk.filesBelow base).foldlM deleteUnwanted deleted
  modify fun o => { o with disk := o.disk.removeEmptyDirs base }
  return deleted

/-- Deletes the files of the managed directories that the run does not want. -/
def deleteStale : Writing (List Path) := do
  let o ← get
  if !o.isFinal then throw .unfinished
  let deleted ← o.managed.foldlM cleanDir []
  modify fun o => { o with stats := { o.stats with deleted := o.stats.deleted + deleted.length } }
  return deleted

/-- Writes the scaffold files that are missing and makes sure that the theme has the styles of
signatures; says how many files were missing. -/
def scaffold (packageName repositoryUrl : Text) : Writing Nat := do
  let values := Scaffold.values packageName repositoryUrl
  let created ← Scaffold.files.mapM fun (path, template) =>
    writeScaffold path (Scaffold.fill values template)
  let _ ← patchImport Scaffold.themePath Scaffold.stylesImport
  return created.countP id

end ApiSite.Output
