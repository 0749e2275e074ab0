import ApiSite.Data.Display

/-!
The declarations of packages: packages hold libraries and topics, libraries hold containers and
top-level elements, and containers hold members. Where a declaration refers to another one, it holds
the place of that one.

A document names the kinds of declarations; which of three roles a declaration plays follows from
its kind.
-/

set_option autoImplicit false

namespace ApiSite.Model

/-- Declarations that have members and a page. -/
def containerKinds : List Text :=
  Text.ofStrings ["class", "enum", "mixin", "extension", "extension_type"]

/-- Declarations on the page of their container. -/
def memberKinds : List Text := Text.ofStrings
  ["constructor", "method", "operator", "field", "getter", "setter", "enum_value"]

/-- Declarations of a library that are no containers. -/
def topLevelKinds : List Text := Text.ofStrings ["function", "variable", "typedef"]

/-- Members that can be called. -/
def callableKinds : List Text := Text.ofStrings ["constructor", "method", "operator", "function"]

def isContainerKind (kind : Text) : Bool := containerKinds.contains kind

def isMemberKind (kind : Text) : Bool := memberKinds.contains kind

def isTopLevelKind (kind : Text) : Bool := topLevelKinds.contains kind

/-- A kind in words. -/
def kindWords (kind : Text) : Text := Text.replace "_" " " kind

end ApiSite.Model

namespace ApiSite

/-- The place of an entity in a model, by positions. -/
inductive Place where
  | package (p : Nat)
  | topic (p k : Nat)
  | library (p l : Nat)
  | container (p l c : Nat)
  | topLevel (p l t : Nat)
  | member (p l c m : Nat)
  deriving DecidableEq, Repr, Inhabited

namespace Place

/-- The place that a place lies in; packages lie in no other. -/
def enclosing : Place → Place
  | package p => package p
  | topic p _ => package p
  | library p _ => package p
  | container p l _ => library p l
  | topLevel p l _ => library p l
  | member p l c _ => container p l c

def isContainer : Place → Bool
  | container .. => true
  | _ => false

end Place

namespace Model

/-- A type as a declaration writes it. -/
inductive TypeRef where
  | mk (name : Text) (arguments : List TypeRef) (nullable : Bool) (href : Value) (wanted : Value)
      (target : Option Place)
  deriving Inhabited

namespace TypeRef

def name : TypeRef → Text
  | mk n _ _ _ _ _ => n

def arguments : TypeRef → List TypeRef
  | mk _ a _ _ _ _ => a

def nullable : TypeRef → Bool
  | mk _ _ n _ _ _ => n

def href : TypeRef → Value
  | mk _ _ _ h _ _ => h

/-- The name of the declaration that is meant, where the document gives it. -/
def wanted : TypeRef → Value
  | mk _ _ _ _ w _ => w

/-- The declaration that the type refers to. -/
def target : TypeRef → Option Place
  | mk _ _ _ _ _ t => t

mutual

/-- A type as plain text. -/
def display : TypeRef → Text
  | mk name arguments nullable _ _ _ =>
    let inner : Text :=
      if arguments.isEmpty then [] else "<" ++ Text.join ", " (displayAll arguments) ++ ">"
    name ++ inner ++ if nullable then ['?'] else []

def displayAll : List TypeRef → List Text
  | [] => []
  | t :: rest => display t :: displayAll rest

end

end TypeRef

structure TypeParameter where
  name : Text
  bound : Option TypeRef

inductive ParameterKind where
  | positional
  | optional
  | named
  deriving DecidableEq, Repr

structure Parameter where
  name : Text
  type : Option TypeRef
  kind : ParameterKind
  isRequired : Bool
  /-- The default value, as the source writes it. -/
  fallback : Option Text

/-- What every entity has. -/
structure Info where
  name : Text
  kind : Text := []
  documentation : Text := []
  isPublic : Bool := true
  isDeprecated : Bool := false
  annotations : List Text := []
  categories : List Text := []
  /-- An address outside the site. -/
  href : Value := .null
  deriving Inhabited

/-- What members and top-level elements have in common. -/
structure Signed where
  returnType : Option TypeRef := none
  parameters : List Parameter := []
  typeParameters : List TypeParameter := []
  isConst : Bool := false
  attributes : List Text := []
  /-- The value of a constant, as the source writes it. -/
  constantValue : Option Text := none
  sourceUrl : Value := .null
  sourceCode : Value := .null

/-- A constructor, method, operator, field, accessor or value of an enumeration. -/
structure Member extends Info, Signed where
  isStatic : Bool := false
  isFactory : Bool := false
  isOverride : Bool := false
  isAbstract : Bool := false
  /-- The container that first declares the member. -/
  inheritedFrom : Option Place := none
  /-- The extension that adds the member. -/
  provider : Option Place := none

/-- A class, enumeration, mixin, extension or extension type. -/
structure Container extends Info where
  typeParameters : List TypeParameter := []
  modifiers : List Text := []
  supertype : Option TypeRef := none
  interfaces : List TypeRef := []
  mixins : List TypeRef := []
  superclassConstraints : List TypeRef := []
  extendedType : Option TypeRef := none
  members : List Member := []
  /-- The containers that name this one as a type they are made from. -/
  implementers : List Place := []
  /-- The extensions on this container. -/
  extensions : List Place := []
  isException : Bool := false
  sourceUrl : Value := .null

/-- A function, variable or type definition of a library. -/
structure TopLevel extends Info, Signed where
  aliasedType : Option TypeRef := none
  isFinal : Bool := false

structure Library extends Info where
  /-- The directory that the document asks for, or one made from the name. -/
  dirName : Text := []
  containers : List Container := []
  topLevel : List TopLevel := []

/-- Entities of any library under one heading. -/
structure Topic extends Info where
  entities : List Place := []

structure Package extends Info where
  description : Text := []
  version : Text := []
  repository : Text := []
  /-- Whether the site has pages for the package. -/
  isLocal : Bool := true
  libraries : List Library := []
  topics : List Topic := []
  deriving Inhabited

/-- The directory of a library that asks for none. -/
def dirNameOf (name : Text) : Text :=
  name.map fun c => if c = ':' then '-' else if c = '/' then '_' else c

/-- Nothing that is public. -/
def Library.isEmpty (l : Library) : Bool :=
  !l.containers.any (·.isPublic) && !l.topLevel.any (·.isPublic)

end Model

/-- Packages with all they hold. -/
structure Model where
  packages : List Model.Package
  /-- Prepared markup by its digest. -/
  fragments : List (Text × Text)
  workspaceName : Text

end ApiSite
