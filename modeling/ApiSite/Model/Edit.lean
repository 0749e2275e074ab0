import ApiSite.Model.Entity

/-!
Changes to a model after it has been read: what entities say about themselves, and new declarations
at the end of containers and libraries. Places of other entities stay what they are.
-/

set_option autoImplicit false

namespace ApiSite.Model

/-- Changes a package. -/
def modifyPackage (m : Model) (p : Nat) (f : Package → Package) : Model :=
  { m with packages := m.packages.modify p f }

/-- Changes a library. -/
def modifyLibrary (m : Model) (p l : Nat) (f : Library → Library) : Model :=
  m.modifyPackage p fun pkg => { pkg with libraries := pkg.libraries.modify l f }

/-- Changes a container. -/
def modifyContainer (m : Model) (p l c : Nat) (f : Container → Container) : Model :=
  m.modifyLibrary p l fun lib => { lib with containers := lib.containers.modify c f }

/-- Changes what an entity says about itself. -/
def modifyInfo (m : Model) (place : Place) (f : Info → Info) : Model :=
  match place with
  | .package p => m.modifyPackage p fun x => { x with toInfo := f x.toInfo }
  | .topic p k => m.modifyPackage p fun pkg =>
    { pkg with topics := pkg.topics.modify k fun x => { x with toInfo := f x.toInfo } }
  | .library p l => m.modifyLibrary p l fun x => { x with toInfo := f x.toInfo }
  | .container p l c => m.modifyContainer p l c fun x => { x with toInfo := f x.toInfo }
  | .topLevel p l t => m.modifyLibrary p l fun lib =>
    { lib with topLevel := lib.topLevel.modify t fun x => { x with toInfo := f x.toInfo } }
  | .member p l c i => m.modifyContainer p l c fun x =>
    { x with members := x.members.modify i fun y => { y with toInfo := f y.toInfo } }

/-- Adds a declaration of a kind to a container or a library, and gives its place. -/
def add? (m : Model) (place : Place) (info : Info) : Option (Model × Place) :=
  match place, (m.entity? place).map Entity.node with
  | .container p l c, some (.container x) =>
    let member : Member := { info with isStatic := false }
    some (m.modifyContainer p l c fun x => { x with members := x.members ++ [member] },
      .member p l c x.members.length)
  | .library p l, some (.library x) =>
    if isContainerKind info.kind then
      let container : Container := { info with members := [] }
      some (m.modifyLibrary p l fun x => { x with containers := x.containers ++ [container] },
        .container p l x.containers.length)
    else
      let element : TopLevel := { info with isFinal := false }
      some (m.modifyLibrary p l fun x => { x with topLevel := x.topLevel ++ [element] },
        .topLevel p l x.topLevel.length)
  | _, _ => none

end ApiSite.Model
