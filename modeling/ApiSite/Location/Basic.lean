import ApiSite.Naming
import ApiSite.Reference
import ApiSite.Settings
import ApiSite.Model.Entity
import ApiSite.Text.Sort

/-!
Where entities are on the site. Directories of libraries and files of declarations are assigned
once, with new names where two would share one, and paths, addresses and anchors follow from them.
-/

set_option autoImplicit false

namespace ApiSite

open Model

/-- Where the entities of a model are. -/
structure Location where
  rules : Settings.LibraryRules
  /-- The names of the libraries that the site may have pages for. -/
  localNames : List Text := []
  /-- The directories of libraries. -/
  dirNames : List (Place × Text) := []
  /-- The directories of libraries by the name of the library; later ones count. -/
  dirNamesByName : List (Text × Text) := []
  /-- The files of declarations, without their endings. -/
  fileNames : List (Place × Text) := []

/-- Where an entity is to be found. -/
structure LinkTarget where
  qualifiedName : Text
  kind : Text
  /-- The file of a page; members have none of their own. -/
  filePath : Option Text
  url : Text
  anchor : Option Text

namespace Location

/-- An address with an anchor behind it, unless that is empty or missing. -/
def withAnchor (url : Text) : Option Text → Text
  | none => url
  | some [] => url
  | some anchor => url ++ '#' :: anchor

end Location

/-- The address of a target on its page. -/
def LinkTarget.link (t : LinkTarget) : Text := Location.withAnchor t.url t.anchor

namespace Location

/-- Whether a library never has a page. -/
def isInternal (loc : Location) (name : Text) : Bool :=
  loc.rules.internalNames.contains name ||
    loc.rules.internalPatterns.any fun p => p.occursIn name

/-- The name of the library that one with this name duplicates. -/
def canonicalNameIn (rules : Settings.LibraryRules) (names : List Text) (name : Text) :
    Option Text :=
  rules.duplicatePrefixes.findSome? fun (inner, canonical) => do
    let rest ← Text.after? inner name
    let candidate := canonical ++ rest
    if candidate != name && names.contains candidate then some candidate else none

/-- The name of the library that one with this name duplicates. -/
def canonicalName (loc : Location) (name : Text) : Option Text :=
  canonicalNameIn loc.rules loc.localNames name

/-- Whether a library of this name duplicates another one. -/
def isDuplicate (loc : Location) (name : Text) : Bool := (loc.canonicalName name).isSome

/-- A directory with hyphens for dots, where it has one of the prefixes that ask for them. -/
def plainDirName (rules : Settings.LibraryRules) (dirName : Text) : Text :=
  if rules.dottedPrefixes.any fun start => Text.startsWith start dirName then
    Text.replace "." "-" dirName
  else dirName

/-- The directory that a library asks for. -/
def wantedDirName (e : Entity) : Text :=
  match e.node with
  | .library l => l.dirName
  | _ => []

/-- The public libraries of a package by name. -/
def publicLibraries (package : Entity) : List Entity :=
  Text.sortByName Entity.name (package.libraries.filter Entity.isPublic)

/-- Whether nothing in a library is public. -/
def isEmptyLibrary (e : Entity) : Bool :=
  match e.node with
  | .library l => l.isEmpty
  | _ => true

/-- The libraries of a package that overviews and navigation show. -/
def navigableLibraries (loc : Location) (package : Entity) : List Entity :=
  (publicLibraries package).filter fun l =>
    !loc.isInternal l.name && !loc.isDuplicate l.name && !isEmptyLibrary l

/-- A text, unless it is empty. -/
def nonempty (t : Text) : Option Text := if t.isEmpty then none else some t

/-- The value of a place. -/
def find? (entries : List (Place × Text)) (place : Place) : Option Text :=
  (entries.find? (·.1 == place)).map (·.2)

/-- The last value of a name. -/
def findLast? (entries : List (Text × Text)) (name : Text) : Option Text :=
  (entries.reverse.find? (·.1 == name)).map (·.2)

/-- The directory of a library. -/
def dirName (loc : Location) (library : Entity) : Text :=
  (((find? loc.dirNames library.place).bind nonempty).or
    ((findLast? loc.dirNamesByName library.name).bind nonempty)).getD
      (plainDirName loc.rules (wantedDirName library))

/-- Whether the site has pages for a package. -/
def isLocal (package : Entity) : Bool :=
  match package.node with
  | .package p => p.isLocal
  | _ => false

/-- The directory of a library that may have pages. -/
def libraryDir? (loc : Location) (library : Entity) : Option Text :=
  if library.parent?.any isLocal && !loc.isInternal library.name then some (loc.dirName library)
  else none

/-- The file of a declaration's page, without its ending. -/
def pageFile? (loc : Location) (e : Entity) : Option Text := do
  let library ← if e.isPublic then e.library? else none
  let dir ← loc.libraryDir? library
  let file ← find? loc.fileNames e.place
  some ("api/" ++ dir ++ "/" ++ file)

/-- The file of an entity's page, if it has one. -/
def filePath? (loc : Location) (e : Entity) : Option Text :=
  match e.node with
  | .package _ => some "api/index.md"
  | .topic _ => some ("topics/" ++ Naming.fileName e.name ++ ".md")
  | .library _ =>
    if loc.isDuplicate e.name then none
    else (loc.libraryDir? e).map fun _ => "api/" ++ loc.dirName e ++ "/index.md"
  | .container _ | .topLevel _ => (loc.pageFile? e).map (· ++ ".md")
  | .member _ => none

/-- The address of the page of an entity that is no member. -/
def pageUrl? (loc : Location) (e : Entity) : Option Text :=
  match e.node with
  | .package _ => some "/api/"
  | .topic _ => some ("/topics/" ++ Naming.fileName e.name)
  | .library _ => ((loc.libraryDir? e).bind nonempty).map fun dir => "/api/" ++ dir ++ "/"
  | .container _ | .topLevel _ => (loc.pageFile? e).map ('/' :: ·)
  | .member _ => none

/-- The address of the page that shows an entity; members are on the page of their container. -/
def url? (loc : Location) (e : Entity) : Option Text :=
  match e.node with
  | .member _ => e.parent?.bind loc.pageUrl?
  | _ => loc.pageUrl? e

/-- The anchor of a member on its page. -/
def memberAnchor (e : Entity) : Text :=
  let name := Naming.withoutTypeArguments e.name
  if e.kind == "operator" then
    let symbol := Entity.operatorSymbol e.name
    "operator-" ++ (Reference.operatorWord? symbol).getD (Naming.anchor symbol)
  else if e.kind == "constructor" then
    let name := Text.lower (Naming.withoutTypeArguments e.referenceName)
    if e.isUnnamedConstructor then "ctor-" ++ name else name
  else if e.kind == "enum_value" then "value-" ++ Text.lower name
  else if (Text.ofStrings ["field", "getter", "setter"]).contains e.kind then
    "prop-" ++ Text.lower (Text.dropEnding "=" name)
  else Text.lower name

/-- The anchor of an entity on its page; only members have one. -/
def anchor? (e : Entity) : Option Text :=
  match e.node with
  | .member _ => some (memberAnchor e)
  | _ => none

/-- The address of an entity: that of its page, with its anchor. -/
def link? (loc : Location) (e : Entity) : Option Text :=
  if e.isPublic then (loc.url? e).map fun url => withAnchor url (anchor? e) else none

/-- Where an entity is to be found. -/
def target? (loc : Location) (e : Entity) : Option LinkTarget :=
  if e.isPublic then
    (loc.url? e).map fun url => ⟨e.qualifiedName, e.kind, loc.filePath? e, url, anchor? e⟩
  else none

/-- A container that has a page, with its members. -/
def containerTargets (loc : Location) (c : Entity) : List Entity :=
  c :: if (loc.filePath? c).isSome then c.members else []

/-- A library that has a page, with all it holds. -/
def libraryTargets (loc : Location) (l : Entity) : List Entity :=
  if (loc.filePath? l).isSome then
    l :: l.containers.flatMap loc.containerTargets ++ l.topLevel
  else []

/-- Everything that is to be found on the site, in the order of the model. -/
def targets (loc : Location) (m : Model) : List LinkTarget :=
  (m.localPackages.flatMap fun p =>
    p :: p.libraries.flatMap loc.libraryTargets ++ p.topics).filterMap loc.target?

end Location

end ApiSite
