import ApiSite.Doc.Rendering
import ApiSite.Location.Assignment
import ApiSite.Model.Loading
import ApiSite.Output.Basic

/-!
What a run does step by step: it renders, writes, logs and prints, and keeps all this also where it
fails.
-/

set_option autoImplicit false

namespace ApiSite.Run

inductive Level where
  | info
  | warning
  deriving DecidableEq, Repr

/-- A line of the log. -/
structure LogLine where
  level : Level
  message : Text
  deriving DecidableEq, Repr

/-- What a run has done. -/
structure State where
  output : Output
  log : List LogLine := []
  /-- The lines that have been printed. -/
  printed : List Text := []

/-- Why a run ends before its end. -/
inductive Error where
  | settings (e : Settings.Error)
  | model (e : Model.Error)
  | rendering (e : Doc.Error)
  | writing (e : Output.Error)

/-- A run can fail, and keeps what it has done. -/
abbrev Running := ExceptT Error (StateM State)

/-- Adds lines to the log. -/
def logAll (lines : List LogLine) : Running Unit :=
  modify fun s => { s with log := s.log ++ lines }

def info (message : Text) : Running Unit := logAll [⟨.info, message⟩]

/-- Logs warnings. -/
def warn (messages : List Text) : Running Unit := logAll (messages.map (⟨.warning, ·⟩))

/-- Prints a line. -/
def print (line : Text) : Running Unit :=
  modify fun s => { s with printed := s.printed ++ [line] }

/-- The result of a step that can fail. -/
def check {ε α : Type} (error : ε → Error) : Except ε α → Running α
  | .ok a => return a
  | .error e => throw (error e)

/-- Renders within a run. -/
def rendering {α : Type} (step : Doc.Rendering α) : Running α := do
  let s ← get
  let (result, progress) := step.run.run { stats := s.output.stats }
  set { s with output := { s.output with stats := progress.stats } }
  warn (progress.removals.map Sanitize.Removal.message)
  check .rendering result

/-- The line of a notice. -/
def noticeLine (n : Output.Notice) : LogLine :=
  ⟨if n.isWarning then .warning else .info, n.message⟩

/-- Writes within a run. -/
def writing {α : Type} (step : Writing α) : Running α := do
  let s ← get
  let (result, output) := step.run.run { s.output with notices := [] }
  set { s with output := { output with notices := [] } }
  logAll (output.notices.map noticeLine)
  check .writing result

end ApiSite.Run
