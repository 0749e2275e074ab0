import ApiSite.Text.Blank
import ApiSite.Model.Basic

/-!
Entities with the scopes around them. A name is looked up from an entity outward: among what the
entity holds, then among what its container holds, its library, and its package.
-/

set_option autoImplicit false

namespace ApiSite

namespace Model

/-- A declaration of any kind. -/
inductive Node where
  | package (p : Package)
  | topic (t : Topic)
  | library (l : Library)
  | container (c : Container)
  | topLevel (t : TopLevel)
  | member (m : Member)

def Node.info : Node → Info
  | package p => p.toInfo
  | topic t => t.toInfo
  | library l => l.toInfo
  | container c => c.toInfo
  | topLevel t => t.toInfo
  | member m => m.toInfo

def Node.isPackage : Node → Bool
  | package _ => true
  | _ => false

/-- What an entity can do. -/
structure Capabilities where
  isCallable : Bool := false
  hasPage : Bool := false
  isInheritable : Bool := false
  isStatic : Bool := false
  isConst : Bool := false
  isFactory : Bool := false
  isUnnamedConstructor : Bool := false
  deriving DecidableEq, Repr

end Model

open Model

/-- An entity with the declarations around it, from the innermost one on. -/
structure Entity where
  place : Place
  node : Node
  outer : List Node

namespace Entity

def info (e : Entity) : Info := e.node.info

abbrev name (e : Entity) : Text := e.info.name

abbrev kind (e : Entity) : Text := e.info.kind

abbrev isPublic (e : Entity) : Bool := e.info.isPublic

/-- The entity around an entity. -/
def parent? (e : Entity) : Option Entity :=
  match e.outer with
  | [] => none
  | node :: outer => some ⟨e.place.enclosing, node, outer⟩

/-- The name of a declaration after the names around it, from the library on. -/
def qualify : Node → List Node → Text
  | .library l, _ => l.name
  | node, [] => node.info.name
  | node, outer :: rest =>
    if outer.isPackage then node.info.name else qualify outer rest ++ '.' :: node.info.name

def qualifiedName (e : Entity) : Text := qualify e.node e.outer

/-- Entities that lie in `e`. -/
def within (e : Entity) (place : Place) (node : Node) : Entity := ⟨place, node, e.node :: e.outer⟩

/-- The libraries of a package. -/
def libraries (e : Entity) : List Entity :=
  match e.place, e.node with
  | .package p, .package pkg => pkg.libraries.zipIdx.map fun (l, i) =>
    e.within (.library p i) (.library l)
  | _, _ => []

/-- The topics of a package. -/
def topics (e : Entity) : List Entity :=
  match e.place, e.node with
  | .package p, .package pkg => pkg.topics.zipIdx.map fun (t, i) => e.within (.topic p i) (.topic t)
  | _, _ => []

/-- The containers of a library. -/
def containers (e : Entity) : List Entity :=
  match e.place, e.node with
  | .library p l, .library lib => lib.containers.zipIdx.map fun (c, i) =>
    e.within (.container p l i) (.container c)
  | _, _ => []

/-- The top-level elements of a library. -/
def topLevel (e : Entity) : List Entity :=
  match e.place, e.node with
  | .library p l, .library lib => lib.topLevel.zipIdx.map fun (t, i) =>
    e.within (.topLevel p l i) (.topLevel t)
  | _, _ => []

/-- The members of a container. -/
def members (e : Entity) : List Entity :=
  match e.place, e.node with
  | .container p l c, .container cont => cont.members.zipIdx.map fun (m, i) =>
    e.within (.member p l c i) (.member m)
  | _, _ => []

/-- The library that an entity is or lies in. -/
def library? (e : Entity) : Option Entity :=
  match e.node with
  | .library _ => some e
  | .container _ | .topLevel _ => e.parent?
  | .member _ => e.parent? >>= parent?
  | _ => none

/-- The package that an entity is or lies in. -/
def package? (e : Entity) : Option Entity :=
  match e.node with
  | .package _ => some e
  | .topic _ => e.parent?
  | _ => e.library? >>= parent?

/-- Whether a member is the constructor that needs no name. -/
def isUnnamedConstructor (e : Entity) : Bool :=
  e.kind == "constructor" &&
    match e.node, e.outer with
    | .member _, outer :: _ => e.name.isEmpty || e.name == "new" || e.name == outer.info.name
    | _, _ => false

/-- The name by which references and anchors know an entity: an unnamed constructor has that of its
container. -/
def referenceName (e : Entity) : Text :=
  if e.isUnnamedConstructor then ((e.outer.head?).map (·.info.name)).getD e.name else e.name

/-- The name that a page shows. -/
def displayName (e : Entity) : Text :=
  match e.node, e.outer with
  | .member _, outer :: _ =>
    if e.kind == "constructor" then
      if e.isUnnamedConstructor then outer.info.name else outer.info.name ++ '.' :: e.name
    else if e.kind == "operator" then "operator " ++ e.name
    else e.name
  | .member _, [] => if e.kind == "operator" then "operator " ++ e.name else e.name
  | _, _ => e.name

/-- What an entity can do. -/
def capabilities (e : Entity) : Capabilities :=
  match e.node with
  | .member m =>
    { isCallable := callableKinds.contains e.kind, isInheritable := e.kind != "constructor",
      isStatic := m.isStatic, isConst := m.isConst, isFactory := m.isFactory,
      isUnnamedConstructor := e.isUnnamedConstructor }
  | .topLevel t => { isCallable := e.kind == "function", hasPage := true, isConst := t.isConst }
  | _ => { hasPage := true }

/-- The symbol of an operator: its name without the word for operators. -/
def operatorSymbol (name : Text) : Text := Text.strip (Text.dropStart "operator" name)

/-- The name under which a container holds a member. -/
def memberKey (e : Entity) : Text :=
  if e.kind == "constructor" then e.referenceName
  else if e.kind == "operator" then operatorSymbol e.name
  else if e.kind == "setter" then Text.dropEnding "=" e.name
  else e.name

/-- The member that a container holds under a name: constructors count only where no other member
has the name, and of several members the last. -/
def memberNamed? (e : Entity) (name : Text) : Option Entity :=
  let named := e.members.filter fun (m : Entity) => m.memberKey == name
  let isConstructor (m : Entity) : Bool := m.kind == "constructor"
  ((named.filter fun m => !isConstructor m).getLast?).or (named.filter isConstructor).getLast?

/-- The declaration that a library holds under a name: the last container, or else the first
top-level element. -/
def declarationNamed? (e : Entity) (name : Text) : Option Entity :=
  ((e.containers.filter fun (c : Entity) => c.name == name).getLast?).or
    (e.topLevel.find? fun (t : Entity) => t.name == name)

/-- What an entity holds under a name. In a package the libraries are searched in order, and their
own names come last. -/
def child? (e : Entity) (name : Text) : Option Entity :=
  match e.node with
  | .container _ => e.memberNamed? name
  | .library _ => e.declarationNamed? name
  | .package _ =>
    (e.libraries.findSome? fun l => l.declarationNamed? name).or
      (e.libraries.find? fun (l : Entity) => l.name == name)
  | _ => none

/-- The names under which an entity holds others, each at least once. -/
def childNames (e : Entity) : List Text :=
  match e.node with
  | .container _ => e.members.map memberKey
  | .library _ => (e.containers ++ e.topLevel).map name
  | .package _ =>
    (e.libraries.flatMap fun l => (l.containers ++ l.topLevel).map name) ++ e.libraries.map name
  | _ => []

/-- What an entity holds at the end of a path of names. -/
def descend? : Entity → List Text → Option Entity
  | e, [] => some e
  | e, name :: path => e.child? name >>= fun c => c.descend? path

/-- Looks a path up in a scope, and where this finds nothing that is accepted, in the scopes around
it. -/
def lookUpFrom (accept : Entity → Bool) (path : List Text) :
    Place → Node → List Node → Option Entity
  | place, node, [] => (descend? ⟨place, node, []⟩ path).filter accept
  | place, node, next :: outer =>
    ((descend? ⟨place, node, next :: outer⟩ path).filter accept).or
      (lookUpFrom accept path place.enclosing next outer)

/-- Looks a path of names up, from an entity outward. -/
def lookUp? (e : Entity) (path : List Text) (accept : Entity → Bool) : Option Entity :=
  match path with
  | [] => none
  | [] :: _ => none
  | path => lookUpFrom accept path e.place e.node e.outer

end Entity

namespace Model

/-- The packages of a model. -/
def entities (m : Model) : List Entity :=
  m.packages.zipIdx.map fun (p, i) => ⟨.package i, .package p, []⟩

/-- The entity at a place. -/
def entity? (m : Model) : Place → Option Entity
  | .package p => m.entities[p]?
  | .topic p k => m.entities[p]? >>= fun e => e.topics[k]?
  | .library p l => m.entities[p]? >>= fun e => e.libraries[l]?
  | .container p l c => do
    let e ← m.entities[p]?
    let e ← e.libraries[l]?
    e.containers[c]?
  | .topLevel p l t => do
    let e ← m.entities[p]?
    let e ← e.libraries[l]?
    e.topLevel[t]?
  | .member p l c i => do
    let e ← m.entities[p]?
    let e ← e.libraries[l]?
    let e ← e.containers[c]?
    e.members[i]?

/-- A library with all it holds: its containers with their members, then its top-level elements. -/
def libraryEntities (l : Entity) : List Entity :=
  l :: (l.containers.flatMap fun c => c :: c.members) ++ l.topLevel

/-- All entities in order: packages with their libraries, then with their topics. -/
def allEntities (m : Model) : List Entity :=
  m.entities.flatMap fun p => p :: p.libraries.flatMap libraryEntities ++ p.topics

/-- The packages that the site has pages for. -/
def localPackages (m : Model) : List Entity :=
  m.entities.filter fun e =>
    match e.node with
    | .package p => p.isLocal
    | _ => false

/-- The prepared markup of a digest; an unknown one has none. -/
def fragment (m : Model) (digest : Text) : Text :=
  ((m.fragments.find? (·.1 == digest)).map (·.2)).getD []

/-- Whether the site is that of several packages. -/
def isWorkspace (m : Model) : Bool := 1 < m.localPackages.length

end Model

end ApiSite
