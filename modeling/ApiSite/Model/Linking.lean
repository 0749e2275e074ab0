import ApiSite.Model.Reading

/-!
Linking: names become places of declarations, containers learn who implements and extends them, and
topics collect their entities.
-/

set_option autoImplicit false

namespace ApiSite.Model

/-- A declaration that types and members can name. -/
structure Named where
  qualifiedName : Text
  name : Text
  kind : Text
  place : Place

/-- The declarations that can be named, in the order of the document. -/
abbrev Index := List Named

/-- The declarations of a library: itself, its containers, its top-level elements. -/
def indexLibrary (p l : Nat) (lib : NamedLibrary) : Index :=
  let info := lib.library.toInfo
  let entry (place : Place) (i : Info) : Named :=
    ⟨info.name ++ '.' :: i.name, i.name, i.kind, place⟩
  ⟨info.name, info.name, info.kind, .library p l⟩ ::
    (lib.containers.zipIdx.map fun (c, i) => entry (.container p l i) c.container.toInfo) ++
    lib.library.topLevel.zipIdx.map fun (t, i) => entry (.topLevel p l i) t.toInfo

def indexPackages (packages : List NamedPackage) : Index :=
  packages.zipIdx.flatMap fun (pkg, p) =>
    pkg.libraries.zipIdx.flatMap fun (lib, l) => indexLibrary p l lib

namespace Index

/-- The first declaration with a qualified name. -/
def qualified? (ix : Index) (name : Text) : Option Place :=
  (ix.find? (·.qualifiedName == name)).map (·.place)

/-- The containers and type definitions of a name. -/
def types (ix : Index) (name : Text) : List Named :=
  ix.filter fun d => d.name == name && (d.place.isContainer || d.kind == "typedef")

/-- What a name means: the declaration with this qualified name, or else the only type of this
name. -/
def find? (ix : Index) (name : Text) : Option Place :=
  (ix.qualified? name).or
    (match ix.types name with
    | [d] => some d.place
    | _ => none)

/-- What a type refers to. A name that the document gives beside the type counts alone, and only as
a qualified name. -/
def target (ix : Index) (name : Text) (wanted : Value) : Except Error (Option Place) :=
  if !wanted.isTrue then .ok (ix.find? name)
  else
    match wanted with
    | .text t => .ok (ix.qualified? t)
    | v => if v.isKey then .ok none else .error .shape

mutual

def linkType (ix : Index) : TypeRef → Except Error TypeRef
  | .mk name arguments nullable href wanted _ => do
    let arguments ← linkTypes ix arguments
    return .mk name arguments nullable href wanted (← ix.target name wanted)

def linkTypes (ix : Index) : List TypeRef → Except Error (List TypeRef)
  | [] => .ok []
  | t :: rest => do
    let t ← linkType ix t
    return t :: (← linkTypes ix rest)

end

def linkType? (ix : Index) : Option TypeRef → Except Error (Option TypeRef)
  | none => .ok none
  | some t => do return some (← ix.linkType t)

def linkTypeParameter (ix : Index) (p : TypeParameter) : Except Error TypeParameter := do
  return { p with bound := (← ix.linkType? p.bound) }

def linkSigned (ix : Index) (s : Signed) : Except Error Signed := do
  return { s with
    returnType := (← ix.linkType? s.returnType),
    parameters := (← s.parameters.mapM fun p => do
      return { p with type := (← ix.linkType? p.type) }),
    typeParameters := (← s.typeParameters.mapM ix.linkTypeParameter) }

def linkMember (ix : Index) (m : NamedMember) : Except Error NamedMember := do
  let signed ← ix.linkSigned m.member.toSigned
  return { m with member := { m.member with toSigned := signed } }

def linkContainer (ix : Index) (c : NamedContainer) : Except Error NamedContainer := do
  let container := c.container
  let linked : Container := { container with
    typeParameters := (← container.typeParameters.mapM ix.linkTypeParameter),
    supertype := (← ix.linkType? container.supertype),
    interfaces := (← ix.linkTypes container.interfaces),
    mixins := (← ix.linkTypes container.mixins),
    superclassConstraints := (← ix.linkTypes container.superclassConstraints),
    extendedType := (← ix.linkType? container.extendedType) }
  return ⟨linked, ← c.members.mapM ix.linkMember⟩

def linkTopLevel (ix : Index) (t : TopLevel) : Except Error TopLevel := do
  let signed ← ix.linkSigned t.toSigned
  return { t with toSigned := signed, aliasedType := (← ix.linkType? t.aliasedType) }

def linkLibrary (ix : Index) (l : NamedLibrary) : Except Error NamedLibrary := do
  let topLevel ← l.library.topLevel.mapM ix.linkTopLevel
  return ⟨{ l.library with topLevel := topLevel }, ← l.containers.mapM ix.linkContainer⟩

/-- Links the types of a package. -/
def linkPackage (ix : Index) (p : NamedPackage) : Except Error NamedPackage := do
  return { p with libraries := (← p.libraries.mapM ix.linkLibrary) }

/-- The container that a member names. -/
def container (ix : Index) (name : Value) : Reading (Option Place) :=
  if !name.isTrue then pure none
  else
    match ix.find? name.shown with
    | some (.container p l c) => pure (some (.container p l c))
    | _ => do
      modify (· ++ [Warning.container name])
      return none

def placeMember (ix : Index) (m : NamedMember) : Reading Member := do
  let inheritedFrom ← ix.container m.inheritedFrom
  let provider ← ix.container m.provider
  return { m.member with inheritedFrom := inheritedFrom, provider := provider }

def placeContainer (ix : Index) (c : NamedContainer) : Reading Container := do
  return { c.container with members := (← c.members.mapM ix.placeMember) }

def placeLibrary (ix : Index) (l : NamedLibrary) : Reading Library := do
  return { l.library with containers := (← l.containers.mapM ix.placeContainer) }

/-- Links the members of a package to the containers that they name. -/
def placePackage (ix : Index) (p : NamedPackage) : Reading Package := do
  return { p.package with libraries := (← p.libraries.mapM ix.placeLibrary) }

end Index

/-- The containers of packages with their places. -/
def placedContainers (packages : List Package) : List (Place × Container) :=
  packages.zipIdx.flatMap fun (pkg, p) =>
    pkg.libraries.zipIdx.flatMap fun (lib, l) =>
      lib.containers.zipIdx.map fun (c, i) => (.container p l i, c)

/-- The declarations that a container names as the types it is made from. -/
def Container.parents (c : Container) : List Place :=
  (c.supertype.toList ++ c.interfaces ++ c.mixins).filterMap TypeRef.target

/-- The declaration that an extension is on. -/
def Container.extended? (c : Container) : Option Place :=
  if c.kind == "extension" then c.extendedType >>= TypeRef.target else none

/-- Lets a container know of one that is made from it. -/
def Container.addImplementer (c : Container) (place : Place) : Container :=
  if c.implementers.contains place then c else { c with implementers := c.implementers ++ [place] }

/-- Lets a container know of an extension on it. -/
def Container.addExtension (c : Container) (place : Place) : Container :=
  { c with extensions := c.extensions ++ [place] }

/-- Changes the container at a place. Other declarations stay as they are. -/
def changeContainer (f : Container → Container) (packages : List Package) : Place → List Package
  | .container p l c => packages.modify p fun pkg =>
    { pkg with
      libraries := pkg.libraries.modify l fun lib =>
        { lib with containers := lib.containers.modify c f } }
  | _ => packages

/-- Lets a declaration know of a container that names it as a type that it is made from. No
container is told of itself. -/
def tellParent (place : Place) (packages : List Package) (parent : Place) : List Package :=
  if parent = place then packages
  else changeContainer (fun c => c.addImplementer place) packages parent

/-- Lets the containers that a container names know of it. -/
def announce (packages : List Package) : Place × Container → List Package
  | (place, c) =>
    let packages := c.parents.foldl (tellParent place) packages
    match c.extended? with
    | some extended => changeContainer (fun d => d.addExtension place) packages extended
    | none => packages

/-- Adds an entity to the last topic of a name, or to a new topic at the end. -/
def addToTopic (name : Text) (entity : Option Place) (topics : List Topic) : List Topic :=
  let add (t : Topic) : Topic := { t with entities := t.entities ++ entity.toList }
  match topics.reverse.findIdx? fun (t : Topic) => t.name == name with
  | some i => topics.modify (topics.length - 1 - i) add
  | none =>
    let info : Info := { name := name, kind := "category" }
    topics ++ [add { info with entities := [] }]

/-- The declarations of a package that topics can hold. -/
def topicMembers (p : Nat) (pkg : Package) : List (Place × Info) :=
  pkg.libraries.zipIdx.flatMap fun (lib, l) =>
    (lib.containers.zipIdx.map fun (c, i) => (Place.container p l i, c.toInfo)) ++
      lib.topLevel.zipIdx.map fun (t, i) => (Place.topLevel p l i, t.toInfo)

/-- Fills the topics of a package. Those that only declarations name come after the others. -/
def collectTopics (p : Nat) (pkg : Package) : Package :=
  let named := (topicMembers p pkg).flatMap fun (place, info) =>
    info.categories.map fun name => (name, if info.isPublic then some place else none)
  { pkg with topics := named.foldl (fun topics (name, e) => addToTopic name e topics) pkg.topics }

/-- Fills in what follows from the links between declarations: one container after the other is made
known to those that it names, and topics are collected. -/
def derive (packages : List Package) : List Package :=
  let packages := (placedContainers packages).foldl announce packages
  packages.zipIdx.map fun (pkg, p) => collectTopics p pkg

/-- Links packages: first all types, then all members. -/
def link (packages : List NamedPackage) : Reading (List Package) := do
  let ix := indexPackages packages
  let typed ← (packages.mapM ix.linkPackage : Except Error _)
  return derive (← typed.mapM ix.placePackage)

end ApiSite.Model
