import ApiSite.Navigation
import ApiSite.Output.Writer
import ApiSite.Report
import ApiSite.Run.Basic
import ApiSite.Run.Pages

/-!
A whole run: from a file of a model and a file of settings to the files of a site, or to a report of
where everything would be.
-/

set_option autoImplicit false

namespace ApiSite.Run

/-- What a run is asked for. -/
structure Request where
  /-- The file of settings, if one is named. -/
  settings : Option (Text × Source)
  modelPath : Text
  model : Source
  /-- The address of the repository, empty where it is not given. -/
  repositoryUrl : Text := []
  /-- Where a report is written in place of the site, if that is asked for. -/
  reportPath : Option Text := none

/-- The settings of a run. -/
def loadSettings (r : Request) : Running Settings := do
  let settings ← check .settings (match r.settings with
    | some (path, source) => Settings.ofSource path source
    | none => (Settings.validate .default).map fun _ => .default)
  if r.repositoryUrl.isEmpty then return settings
  check .settings (settings.withRepository r.repositoryUrl)

/-- What is logged about a model. -/
def modelLine (m : Model) : Text :=
  "Loaded " ++ Text.ofNat m.packages.length ++ " package(s) with " ++ Text.ofNat m.size ++
    " entities"

/-- The model of a run. -/
def loadModel (r : Request) : Running Model := do
  let (result, warnings) := Model.ofSource r.modelPath r.model
  warn (warnings.map Model.Warning.message)
  let model ← check .model result
  info (modelLine model)
  return model

/-- Gives the entities of a model their places. -/
def locate (settings : Settings) (model : Model) : Running Location := do
  let rules ← check .settings settings.libraryRules
  let (location, warnings) := Location.build rules model.entities
  modify fun s =>
    let stats := s.output.stats
    { s with output :=
        { s.output with stats := { stats with collisions := stats.collisions + warnings.length } } }
  warn (warnings.map Location.Warning.message)
  return location

/-- How many pages are written between two lines about them. -/
def progressStep : Nat := 50

/-- What is printed once `done` of `total` pages are written. -/
def progressLine? (done total : Nat) : Option Text :=
  if done % progressStep = 0 then
    some ("  ... wrote " ++ Text.ofNat done ++ "/" ++ Text.ofNat total ++ " pages")
  else none

/-- Renders and writes pages, after `done` others. -/
def writePagesFrom (total : Nat) : (done : Nat) → List PageJob → Running Unit
  | _, [] => pure ()
  | done, job :: rest => do
    let text ← rendering job.render
    let _ ← writing (Output.write job.path text)
    match progressLine? (done + 1) total with
    | some line => print line
    | none => pure ()
    writePagesFrom total (done + 1) rest

/-- Renders and writes all pages; says how many there are. -/
def writePages (site : Site) : Running Nat := do
  let jobs := pageJobs site
  print ("Writing " ++ Text.ofNat jobs.length ++ " pages...")
  writePagesFrom jobs.length 0 jobs
  return jobs.length

/-- Writes the files that belong to no entity. -/
def writeGenerated (site : Site) : Running Unit := do
  let navigation := Navigation.render site.location site.model.localPackages
  let _ ← writing (Output.write Navigation.path navigation)
  let _ ← writing (Output.write Navigation.guidePath Navigation.guide)
  let _ ← writing (Output.write Navigation.stylesPath Navigation.styles)

/-- The address of the repository: that of the settings, or else that of the first package. -/
def repositoryOf (settings : Settings) (model : Model) : Running Text := do
  let url ← check .settings (settings.output "repository_url")
  if !url.isTrue then return (model.packages.head?.map (·.repository)).getD []
  check .settings (Settings.textOf url)

/-- Writes the scaffold of the site. -/
def writeScaffold (settings : Settings) (model : Model) : Running Unit := do
  let url ← repositoryOf settings model
  let created ← writing (Output.scaffold model.workspaceName url)
  if created ≠ 0 then print ("Created " ++ Text.ofNat created ++ " scaffold files")

/-- Logs the references that lead nowhere. -/
def logReferences : Running Unit := do
  let stats := (← get).output.stats
  info ("Resolved " ++ Text.ofNat stats.resolved ++ "/" ++ Text.ofNat stats.references ++
    " doc comment references (" ++ stats.percent ++ ")")
  for (name, count) in stats.topUnresolved 10 do
    info ("  unresolved: [" ++ name ++ "] x" ++ Text.ofNat count)

/-- What is printed at the end. -/
def summary (pages deleted : Nat) (o : Output) : Text :=
  "Generated " ++ Text.ofNat pages ++ " Markdown pages into: " ++ o.root.toText ++ " (" ++
    Text.ofNat o.stats.written ++ " written, " ++ Text.ofNat o.stats.unchanged ++ " unchanged, " ++
    Text.ofNat deleted ++ " deleted)"

/-- Writes the site. -/
def writeSite (settings : Settings) (model : Model) (location : Location) : Running Unit := do
  let site ← check .settings (Site.of settings model location)
  let dirs ← check .settings (settings.output "managed_dirs")
  writing (Output.start [])
  let dirs ← check .settings (Settings.managedDirs dirs)
  writing (Output.start dirs)
  let pages ← writePages site
  writeGenerated site
  writeScaffold settings model
  writing Output.finalize
  let deleted ← writing Output.deleteStale
  logReferences
  print (summary pages deleted.length (← get).output)

/-- The report of where everything would be. -/
def report (settings : Settings) (model : Model) (location : Location) : Running Report := do
  let digest ← check .settings
    ((Settings.digest? settings.toValue).elim (.error .shape) .ok)
  return ⟨digest, location.targets model, some (← get).output.stats⟩

/-- A run; where a report is asked for, this is its result. -/
def generate (r : Request) : Running (Option Report) := do
  modify fun s => { s with output := { s.output with stats := {} } }
  let settings ← loadSettings r
  let model ← loadModel r
  let location ← locate settings model
  match r.reportPath with
  | some path => do
    let report ← report settings model location
    print ("Dry run complete. Report generated at " ++ path)
    return some report
  | none => do
    writeSite settings model location
    return none

end ApiSite.Run
