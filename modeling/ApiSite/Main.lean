import ApiSite.CommandLine
import ApiSite.Run.Generation

/-!
The program: it reads the files that a command line names and the site as it is, runs once, and
carries out what the run has changed.
-/

set_option autoImplicit false

namespace ApiSite.Main

open Output

/-- A text as the system takes it. -/
def str (t : Text) : String := String.ofList t

/-- Reads a file of text. -/
def readSource (path : Text) : IO Source := do
  try
    return Source.ofBytes (← IO.FS.readBinFile (str path))
  catch _ => return .missing

/-- The text of a file of the site; one that is no text holds a null character only. -/
def readText (path : String) : IO Text := do
  return ((String.fromUTF8? (← IO.FS.readBinFile path)).map String.toList).getD ['\x00']

/-- Directories that other programs fill, and whose contents are not looked at. -/
def foreignDirs : List Path :=
  [["node_modules"], [".vitepress", "dist"], [".vitepress", "cache"]]

/-- Reads what an entry of a directory is, and what is below it. -/
partial def readEntry (p : Path) (entry : IO.FS.DirEntry) : IO (List (Path × Entry)) := do
  let p := p ++ [entry.fileName.toList]
  match (← entry.path.symlinkMetadata).type with
  | .symlink => return [(p, .link (← IO.FS.realPath entry.path).toString.toList)]
  | .dir =>
    if foreignDirs.contains p then return [(p, .dir)]
    let below ← (← entry.path.readDir).toList.mapM (readEntry p)
    return (p, .dir) :: below.flatten
  | _ => return [(p, .file (← readText entry.path.toString))]

/-- Reads the site as it is. -/
def readTree (root : String) : IO (List (Path × Entry)) := do
  let path ← IO.FS.realPath root
  if !(← path.pathExists) then return []
  else if ← path.isDir then
    let below ← (← path.readDir).toList.mapM (readEntry [])
    return ([], .dir) :: below.flatten
  else return [([], .file [])]

/-- Where a path of the site is. -/
def placeOf (root : String) (p : Path) : String :=
  if p.isEmpty then root else root ++ "/" ++ str p.toText

/-- Writes what is new or changed. -/
def writeEntry (root : String) (before : Disk) (entry : Path × Entry) : IO Unit := do
  let (p, e) := entry
  if before.find? p == some e then return
  match e with
  | .dir => IO.FS.createDirAll (placeOf root p)
  | .file t => IO.FS.writeFile (placeOf root p) (str t)
  | .link _ => pure ()

/-- Removes what is gone: files first, then directories, the deepest first. -/
def removeGone (root : String) (before after : Disk) : IO Unit := do
  let gone := before.entries.filter fun e => (after.find? e.1).isNone
  for (p, e) in gone do
    if e != .dir then IO.FS.removeFile (placeOf root p)
  let dirs := (gone.filter fun e => e.2 == .dir).map (·.1)
  for p in dirs.mergeSort (fun p q => q.length ≤ p.length) do
    IO.FS.removeDir (placeOf root p)

/-- Carries out what a run has changed. Directories come before what is in them. -/
def apply (root : String) (before after : Disk) : IO Unit := do
  for entry in after.entries.mergeSort fun a b => Path.le a.1 b.1 do
    writeEntry root before entry
  removeGone root before after

/-- What is said about an error. -/
def errorText : Run.Error → Text
  | .settings e => e.message
  | .model e => e.message
  | .rendering .listStart => "The first number of a list is no decimal number"
  | .rendering .shape => "A value has an unexpected shape"
  | .writing e => e.message

def levelText : Run.Level → String
  | .info => "INFO"
  | .warning => "WARNING"

/-- A path from the root of all files on. -/
def absolute (path : Text) : IO Text := do
  if path.head? == some '/' then return path
  return (← IO.currentDir).toString.toList ++ '/' :: path

/-- Runs once. -/
def run (c : CommandLine) : IO UInt32 := do
  let settings ← match c.settings with
    | some path => pure (some (path, ← readSource path))
    | none => pure none
  let model ← readSource c.model
  let root := Path.walk [] (Text.splitOn '/' (← absolute c.outDir))
  let rootText := str ('/' :: root.toText)
  let before : Disk := ⟨← readTree rootText⟩
  let request : Run.Request :=
    { settings := settings
      modelPath := c.model
      model := model
      repositoryUrl := c.repositoryUrl
      reportPath := if c.isDryRun then some c.report else none }
  let output : Output := { root := [] :: root, disk := before }
  let (result, state) := (Run.generate request).run.run { output := output }
  for line in state.log do
    IO.eprintln (levelText line.level ++ " " ++ str line.message)
  apply rootText before state.output.disk
  for line in state.printed do
    IO.println (str line)
  match result with
  | .ok report =>
    match report with
    | some r => IO.FS.writeFile (str c.report) (str (Json.indented 0 r.toValue))
    | none => pure ()
    return 0
  | .error e =>
    IO.eprintln (str (errorText e))
    return 1

end ApiSite.Main

def main (args : List String) : IO UInt32 := do
  match ApiSite.CommandLine.ofArguments? (args.map String.toList) with
  | some c => ApiSite.Main.run c
  | none =>
    IO.eprintln (ApiSite.Main.str ApiSite.CommandLine.usage)
    return 2
