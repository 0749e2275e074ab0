import ApiSite.Count
import ApiSite.Text.LetterCase
import ApiSite.Data.Source
import ApiSite.Yaml.Document
import ApiSite.Model.Entity
import ApiSite.Model.Linking

/-!
Loading a model: a document is read, its packages are built in order, and then they are linked.
-/

set_option autoImplicit false

namespace ApiSite.Model

/-- The packages that a document lists: those under `packages`, or the one under `package`. -/
def listedPackages (doc : Entries) : Reading (List Value) := do
  let packages ← match doc.get "packages" with
    | .null => pure (if (doc.get "package").isTrue then [doc.get "package"] else [])
    | v => match v.items? with
      | some items => pure items
      | none => throw .shape
  if packages.isEmpty then throw .noPackage
  return packages

/-- Gives a name a text: the last one counts. -/
def assignText (name value : Text) : List (Text × Text) → List (Text × Text)
  | [] => [(name, value)]
  | (n, v) :: rest =>
    if n == name then (n, value) :: rest else (n, v) :: assignText name value rest

/-- Prepared markup by its digest, in small letters. -/
def fragmentsOf (v : Value) : Reading (List (Text × Text)) := do
  if !v.isTrue then return []
  let entries ← entriesOf v
  return entries.foldl (fun out (k, v) => assignText (Text.lower k.shown) v.shown out) []

/-- Reads a model from the entries of a document. -/
def read (doc : Entries) : Reading Model := do
  let named ← (← listedPackages doc).mapM packageOf
  let packages ← link named
  let fragments ← fragmentsOf (doc.get "html_fragments")
  let workspace := doc.get "workspace_name"
  let first := (packages.head?.map (·.name)).getD []
  return ⟨packages, fragments, if workspace.isTrue then workspace.shown else first⟩

/-- A model, or why there is none, and what reading it warned about. -/
abbrev Loaded := Except Error Model × List Warning

/-- Reads a model from a value that a document holds. -/
def ofValue (v : Value) : Loaded :=
  match v with
  | .mapping doc => (read doc).run.run []
  | _ => (.error .shape, [])

/-- Reads a model from the text of a file. -/
def ofText (path text : Text) : Loaded :=
  match Yaml.read text with
  | .error .malformed => (.error (.unreadable path), [])
  | .error .impossible => (.error .impossible, [])
  | .error .unknownWord => (.error .shape, [])
  | .ok v =>
    if !v.isTrue then ofValue (.mapping [])
    else
      match v with
      | .mapping doc => ofValue (.mapping doc)
      | _ => (.error (.noMapping path), [])

/-- Reads the file of a model. -/
def ofSource (path : Text) : Source → Loaded
  | .missing => (.error (.missing path), [])
  | .binary => (.error (.unreadable path), [])
  | .text t => ofText path t

/-- How many entities a library holds, itself included. -/
def Library.size (l : Library) : Nat :=
  1 + total (l.containers.map fun c => 1 + c.members.length) + l.topLevel.length

/-- How many libraries, containers, members and top-level elements there are. -/
def size (m : Model) : Nat :=
  total (m.packages.map fun p => total (p.libraries.map Library.size))

end ApiSite.Model
