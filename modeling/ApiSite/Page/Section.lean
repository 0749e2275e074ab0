import ApiSite.Count
import ApiSite.Text.Sort
import ApiSite.Model.Entity

/-!
The sections of a container's page. Every public member is in one of them, except setters of
constants.
-/

set_option autoImplicit false

namespace ApiSite.Page

open Model

/-- A section of members. -/
inductive Section where
  | values
  | constructors
  | properties
  | methods
  | operators
  | staticProperties
  | staticMethods
  | constants
  deriving DecidableEq, Repr

namespace Section

/-- The sections in their order. -/
def all : List Section :=
  [values, constructors, properties, methods, operators, staticProperties, staticMethods, constants]

def title : Section → Text
  | values => "Values"
  | constructors => "Constructors"
  | properties => "Properties"
  | methods => "Methods"
  | operators => "Operators"
  | staticProperties => "Static Properties"
  | staticMethods => "Static Methods"
  | constants => "Constants"

/-- Fields and what stands for them. -/
def isField (kind : Text) : Bool := kind == "field" || kind == "getter" || kind == "setter"

/-- Whether a public member belongs in a section. -/
def holds (m : Member) : Section → Bool
  | values => m.kind == "enum_value"
  | constructors => m.kind == "constructor"
  | properties => isField m.kind && !m.isStatic && !m.isConst
  | methods => m.kind == "method" && !m.isStatic
  | operators => m.kind == "operator"
  | staticProperties => isField m.kind && m.isStatic && !m.isConst
  | staticMethods => m.kind == "method" && m.isStatic
  | constants => (m.kind == "field" || m.kind == "getter") && m.isConst

/-- Members of a section in the order in which it shows them: values as they are declared, the
others by name, unnamed constructors first. -/
def order (members : List Entity) : Section → List Entity
  | values => members
  | constructors =>
    Text.sortByName Entity.name (members.filter fun (m : Entity) => m.isUnnamedConstructor) ++
      Text.sortByName Entity.name (members.filter fun (m : Entity) => !m.isUnnamedConstructor)
  | _ => Text.sortByName Entity.name members

/-- Whether an entity is a public member that belongs in a section. -/
def shows (s : Section) (e : Entity) : Bool :=
  match e.node with
  | .member m => m.isPublic && s.holds m
  | _ => false

end Section

/-- The sections of a container with their members; empty sections are left out. -/
def memberSections (container : Entity) : List (Section × List Entity) :=
  (Section.all.map fun s => (s, s.order (container.members.filter s.shows))).filter fun s =>
    !s.2.isEmpty

/-- How many members the page of a container shows. -/
def memberCount (container : Entity) : Nat :=
  total ((memberSections container).map fun s => s.2.length)

end ApiSite.Page
