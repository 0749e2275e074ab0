import ApiSite.Location.Basic

/-!
The assignment of directories and files. Libraries that would share a directory get the name of
their package before it; declarations that would share a file get their kind behind it.
-/

set_option autoImplicit false

namespace ApiSite.Location

open Model

/-- A name that is not used as it is, because something else has it. -/
inductive Warning where
  | directory (base : Text) (count : Nat) (used library : Text)
  | indexPage (file declaration used : Text)
  | containerPage (file declaration used : Text)

def Warning.message : Warning → Text
  | directory base count used library =>
    "Library directory '" ++ base ++ "' is used by " ++ Text.ofNat count ++ " libraries; using '" ++
      used ++ "' for " ++ library
  | indexPage file declaration used =>
    "File name '" ++ file ++ "' for " ++ declaration ++ " collides with index page; using '" ++
      used ++ "'"
  | containerPage file declaration used =>
    "File name '" ++ file ++ "' for " ++ declaration ++
      " collides with a container page (case-insensitive); using '" ++ used ++ "'"

/-- The name of the package that a library is in. -/
def ownerName (library : Entity) : Text := (library.parent?.map Entity.name).getD "package"

/-- The libraries that get directories of their own. -/
def libraryCandidates (loc : Location) (packages : List Entity) : List Entity :=
  packages.flatMap fun p => (publicLibraries p).filter fun l => !loc.isDuplicate l.name

/-- The directory of a library, given the directories that all libraries ask for. -/
def assignDirName (rules : Settings.LibraryRules) (bases : List Text) (library : Entity) :
    Text × List Warning :=
  let base := plainDirName rules (wantedDirName library)
  let count := bases.count base
  if 1 < count then
    let used := ownerName library ++ '_' :: base
    (used, [.directory base count used library.name])
  else (base, [])

/-- Gives libraries their directories, and duplicate libraries those of the libraries that they
duplicate. -/
def assignDirNames (loc : Location) (packages : List Entity) : Location × List Warning :=
  let candidates := loc.libraryCandidates packages
  let bases := candidates.map fun l => plainDirName loc.rules (wantedDirName l)
  let assigned := candidates.map fun l => (l, assignDirName loc.rules bases l)
  let own := assigned.map fun (l, dir, _) => (l, dir)
  let canonical := own.map fun (l, dir) => (l.name, dir)
  let others := (packages.flatMap Entity.libraries).filter fun l =>
    !own.any fun (o, _) => o.place == l.place
  let redirected := others.filterMap fun l => do
    let dir ← findLast? canonical (← loc.canonicalName l.name)
    some (l, dir)
  let all := own ++ redirected
  ({ loc with
      dirNames := all.map fun (l, dir) => (l.place, dir)
      dirNamesByName := all.map fun (l, dir) => (l.name, dir) },
    assigned.flatMap fun (_, _, warnings) => warnings)

/-- What distinguishes the files of declarations of different kinds. -/
def kindSuffixes : List (Text × Text) :=
  [("class", "class"), ("enum", "enum"), ("mixin", "mixin"), ("extension", "extension"),
    ("extension_type", "extension-type"), ("function", "function"), ("variable", "property"),
    ("typedef", "typedef")]

def kindSuffix (kind : Text) : Text :=
  ((kindSuffixes.find? (·.1 == kind)).map (·.2)).getD "element"

/-- The file of a declaration: never that of the library's own page, and for a top-level element
never that of a container. -/
def assignFileName (containerFiles : List Text) (e : Entity) : Text × List Warning :=
  let file := Naming.fileName e.name
  let other (t : Text) : Text := t ++ '-' :: kindSuffix e.kind
  let (file, first) : Text × List Warning :=
    if Text.lower file == "index" then
      (other file, [.indexPage file e.qualifiedName (other file)])
    else (file, [])
  if !e.place.isContainer && containerFiles.contains (Text.lower file) then
    (other file, first ++ [.containerPage file e.qualifiedName (other file)])
  else (file, first)

/-- The files of a library's public containers, in lower case. -/
def containerFiles (library : Entity) : List Text :=
  (library.containers.filter Entity.isPublic).map fun (c : Entity) =>
    Text.lower (Naming.fileName c.name)

/-- Gives the declarations of a library their files. -/
def assignFileNames (library : Entity) : List (Place × Text × List Warning) :=
  let taken := containerFiles library
  (library.containers ++ library.topLevel).map fun e => (e.place, assignFileName taken e)

/-- Where the entities of packages are, and which names could not be used as they are. -/
def build (rules : Settings.LibraryRules) (packages : List Entity) : Location × List Warning :=
  let packages := packages.filter isLocal
  let libraries := packages.flatMap Entity.libraries
  let loc : Location := { rules := rules, localNames := libraries.map Entity.name }
  let (loc, dirWarnings) := loc.assignDirNames packages
  let files := libraries.flatMap assignFileNames
  ({ loc with fileNames := files.map fun (place, file, _) => (place, file) },
    dirWarnings ++ files.flatMap fun (_, _, warnings) => warnings)

end ApiSite.Location
