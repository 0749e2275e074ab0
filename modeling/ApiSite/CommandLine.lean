import ApiSite.Text.Basic

/-!
The command line: a model and a directory for the site, with options before, between or behind them.
-/

set_option autoImplicit false

namespace ApiSite

/-- What a command line asks for. -/
structure CommandLine where
  model : Text
  outDir : Text
  settings : Option Text := none
  isDryRun : Bool := false
  report : Text := "path_report.json"
  repositoryUrl : Text := []

namespace CommandLine

/-- Options that have a value behind them. -/
inductive ValueOption where
  | settings
  | report
  | repositoryUrl
  deriving DecidableEq, Repr

def valueOption? (name : Text) : Option ValueOption :=
  if name == "--config" then some .settings
  else if name == "--report" then some .report
  else if name == "--repository-url" then some .repositoryUrl
  else none

/-- A command line with the value of an option. -/
def withValue (c : CommandLine) (o : ValueOption) (value : Text) : CommandLine :=
  match o with
  | .settings => { c with settings := some value }
  | .report => { c with report := value }
  | .repositoryUrl => { c with repositoryUrl := value }

/-- Reads arguments: the options into `c`, the others behind `plain`. -/
def read (c : CommandLine) (plain : List Text) : List Text → Option (CommandLine × List Text)
  | [] => some (c, plain)
  | [a] =>
    if a == "--dry-run" then some ({ c with isDryRun := true }, plain)
    else if a == "-v" || a == "--verbose" then some (c, plain)
    else inline c plain a
  | a :: b :: rest =>
    if a == "--dry-run" then read { c with isDryRun := true } plain (b :: rest)
    else if a == "-v" || a == "--verbose" then read c plain (b :: rest)
    else
      match valueOption? a with
      | some o => read (c.withValue o b) plain rest
      | none => do
        let (c, plain) ← inline c plain a
        read c plain (b :: rest)
where
  /-- An option with its value behind an equals sign, or a plain argument. -/
  inline (c : CommandLine) (plain : List Text) (a : Text) : Option (CommandLine × List Text) :=
    if Text.startsWith "-" a then do
      let (name, value) ← Text.cut? "=" a
      some (c.withValue (← valueOption? name) value, plain)
    else some (c, plain ++ [a])

/-- Reads a command line. -/
def ofArguments? (arguments : List Text) : Option CommandLine :=
  match read { model := [], outDir := [] } [] arguments with
  | some (c, [model, outDir]) => some { c with model := model, outDir := outDir }
  | _ => none

/-- What is said about a command line that cannot be read. -/
def usage : Text :=
  "usage: api-site [--config FILE] [--dry-run] [--report FILE] [--repository-url URL] [-v] " ++
    "MODEL OUT_DIR"

end CommandLine

end ApiSite
