import ApiSite.Model.Basic

/-!
Reading packages from a document. What a document leaves out has a default; what it gives is read as
a text, a truth value or a list, whatever it is. References between declarations are read as names
only.
-/

set_option autoImplicit false

namespace ApiSite.Model

/-- Why a document is no model. -/
inductive Error where
  /-- There is no file. -/
  | missing (path : Text)
  /-- The file cannot be read, or is not well formed. -/
  | unreadable (path : Text)
  /-- The file names a value that does not exist. -/
  | impossible
  | noMapping (path : Text)
  | noPackage
  | namelessPackage
  | containerKind (kind name : Text)
  | memberKind (kind container name : Text)
  | topLevelKind (kind name : Text)
  /-- A part of the document has a shape that makes no sense there. -/
  | shape

/-- What is said about an error. -/
def Error.message : Error → Text
  | missing path => "Model file not found: " ++ path
  | unreadable path => "Could not read model file " ++ path
  | impossible => "Model file holds an impossible value"
  | noMapping path => "Model file " ++ path ++ " must contain a mapping at the top level"
  | noPackage => "Model has no 'package' or 'packages' entry"
  | namelessPackage => "Every package in the model needs a name"
  | containerKind kind name =>
    "Unknown container kind " ++ Value.quotedText kind ++ " for " ++ name
  | memberKind kind container name =>
    "Unknown member kind " ++ Value.quotedText kind ++ " for " ++ container ++ "." ++ name
  | topLevelKind kind name =>
    "Unknown top-level kind " ++ Value.quotedText kind ++ " for " ++ name
  | shape => "A part of the model has an unexpected shape"

/-- What a model is warned about. -/
inductive Warning where
  | parameterKind (kind : Text) (name : Value)
  | container (name : Value)

def Warning.message : Warning → Text
  | parameterKind kind name =>
    "Unknown parameter kind " ++ Value.quotedText kind ++ " for " ++ name.shown ++
      "; treating it as positional"
  | container name => "Unknown container referenced by a member: " ++ name.shown

/-- Reading can fail, and gives warnings, also where it fails later on. -/
abbrev Reading := ExceptT Error (StateM (List Warning))

/-- The parts of a mapping that describes something. -/
abbrev Entries := List (Value × Value)

def Entries.get (raw : Entries) (key : String) : Value :=
  (Value.find? (.text key.toList) raw).getD .null

/-- A mapping. -/
def entriesOf : Value → Reading Entries
  | .mapping m => pure m
  | _ => throw .shape

/-- A text, empty where the value counts as false. -/
def textOr (v : Value) : Text := if v.isTrue then v.shown else []

/-- A text, if there is a value. -/
def optionalText : Value → Option Text
  | .null => none
  | v => some v.shown

/-- A truth value that may be left out. -/
def flag (raw : Entries) (key : String) (missing : Bool) : Bool :=
  ((Value.find? (.text key.toList) raw).map Value.isTrue).getD missing

/-- What is listed under a key. -/
def listed (raw : Entries) (key : String) : Reading (List Value) :=
  match (raw.get key).items? with
  | some items => pure items
  | none => throw .shape

/-- The texts that are listed under a key. -/
def texts (raw : Entries) (key : String) : Reading (List Text) :=
  return (← listed raw key).map Value.shown

/-- What every entity has. -/
def infoOf (raw : Entries) : Reading Info := do
  return {
    name := textOr (raw.get "name"), kind := textOr (raw.get "kind"),
    documentation := textOr (raw.get "documentation"), isPublic := flag raw "is_public" true,
    isDeprecated := flag raw "is_deprecated" false, annotations := (← texts raw "annotations"),
    categories := (← texts raw "categories"), href := raw.get "href" }

/-- A name with an optional question mark behind it. -/
def plainType (t : Text) : TypeRef :=
  .mk (Text.dropEnding "?" t) [] (Text.endsWith "?" t) .null .null none

/-- The texts of values that list types. -/
def plainTypes (t : Text) : List TypeRef := t.map fun c => plainType [c]

mutual

/-- A type: a name with an optional question mark behind it, or a mapping. -/
def typeOf? : Value → Except Error (Option TypeRef)
  | .null => .ok none
  | .text t => .ok (if t.isEmpty then none else some (plainType t))
  | .mapping m => do
    let arguments ← typeArguments m
    let raw : Entries := m
    return some (.mk (textOr (raw.get "name")) arguments (flag raw "nullable" false)
      (raw.get "href") (raw.get "target") none)
  | _ => .error .shape

/-- The arguments of a type that a mapping describes. -/
def typeArguments : List (Value × Value) → Except Error (List TypeRef)
  | [] => .ok []
  | (k, v) :: rest => if Value.sameKey k (.text "arguments") then typesOf v else typeArguments rest

/-- The types that a value lists. -/
def typesOf : Value → Except Error (List TypeRef)
  | .list l => typesOfAll l
  | .text t => .ok (plainTypes t)
  | .mapping m => typesOfKeys m
  | v => if v.isTrue then .error .shape else .ok []

def typesOfAll : List Value → Except Error (List TypeRef)
  | [] => .ok []
  | v :: rest => do
    let t ← typeOf? v
    return t.toList ++ (← typesOfAll rest)

def typesOfKeys : List (Value × Value) → Except Error (List TypeRef)
  | [] => .ok []
  | (k, _) :: rest => do
    let t ← typeOf? k
    return t.toList ++ (← typesOfKeys rest)

end

def typeParameterOf : Value → Reading TypeParameter
  | .text t => pure ⟨t, none⟩
  | v => do
    let raw ← entriesOf v
    return ⟨textOr (raw.get "name"), ← typeOf? (raw.get "bound")⟩

def parameterKind? (kind : Text) : Option ParameterKind :=
  if kind == "positional" then some .positional
  else if kind == "optional" then some .optional
  else if kind == "named" then some .named
  else none

/-- A parameter; one of an unknown kind is taken as positional. -/
def parameterOf (v : Value) : Reading Parameter := do
  let raw ← entriesOf v
  let kind := raw.get "kind"
  let kindText : Text := if kind.isTrue then kind.shown else "positional"
  let kind ← match parameterKind? kindText with
    | some k => pure k
    | none => do
      modify (· ++ [Warning.parameterKind kindText (raw.get "name")])
      pure .positional
  return {
    name := textOr (raw.get "name"), type := (← typeOf? (raw.get "type")), kind := kind,
    isRequired := flag raw "required" (kind == .positional),
    fallback := optionalText (raw.get "default") }

/-- The first of two values that counts as true, or the second. -/
def either (a b : Value) : Value := if a.isTrue then a else b

/-- What members and top-level elements have in common. -/
def signedOf (raw : Entries) : Reading Signed := do
  return {
    returnType := (← typeOf? (either (raw.get "return_type") (raw.get "type"))),
    parameters := (← (← listed raw "parameters").mapM parameterOf),
    typeParameters := (← (← listed raw "type_parameters").mapM typeParameterOf),
    isConst := flag raw "is_const" false, attributes := (← texts raw "attributes"),
    constantValue := optionalText (raw.get "constant_value"), sourceUrl := raw.get "source_url",
    sourceCode := raw.get "source_code" }

/-- A member with the names of the containers that declare and provide it. -/
structure NamedMember where
  member : Member
  inheritedFrom : Value
  provider : Value

def memberOf (container : Text) (v : Value) : Reading NamedMember := do
  let raw ← entriesOf v
  let info ← infoOf raw
  if !isMemberKind info.kind then throw (.memberKind info.kind container info.name)
  let signed ← signedOf raw
  return ⟨{ info, signed with
      isStatic := flag raw "is_static" false,
      isFactory := flag raw "is_factory" false, isOverride := flag raw "is_override" false,
      isAbstract := flag raw "is_abstract" false },
    raw.get "inherited_from", raw.get "extension_provider"⟩

/-- A container whose members are still named ones. -/
structure NamedContainer where
  container : Container
  members : List NamedMember

def containerOf (v : Value) : Reading NamedContainer := do
  let raw ← entriesOf v
  let info ← infoOf raw
  if !isContainerKind info.kind then throw (.containerKind info.kind info.name)
  let container : Container :=
    { info with
      typeParameters := (← (← listed raw "type_parameters").mapM typeParameterOf),
      modifiers := (← texts raw "modifiers"),
      supertype := (← typeOf? (raw.get "supertype")),
      interfaces := (← typesOf (raw.get "interfaces")),
      mixins := (← typesOf (raw.get "mixins")),
      superclassConstraints := (← typesOf (raw.get "superclass_constraints")),
      extendedType := (← typeOf?
        (either (raw.get "extended_type") (raw.get "representation_type"))),
      isException := flag raw "is_exception" false,
      sourceUrl := raw.get "source_url" }
  return ⟨container, ← (← listed raw "members").mapM (memberOf info.name)⟩

def topLevelOf (v : Value) : Reading TopLevel := do
  let raw ← entriesOf v
  let info ← infoOf raw
  if !isTopLevelKind info.kind then throw (.topLevelKind info.kind info.name)
  let signed ← signedOf raw
  return { info, signed with
    aliasedType := (← typeOf? (raw.get "aliased_type")),
    isFinal := flag raw "is_final" false }

/-- A library whose members are still named ones. -/
structure NamedLibrary where
  library : Library
  containers : List NamedContainer

/-- A kind, or another one where none is given. -/
def Info.withKind (info : Info) (kind : Text) : Info :=
  if info.kind.isEmpty then { info with kind := kind } else info

def libraryOf (v : Value) : Reading NamedLibrary := do
  let raw ← entriesOf v
  let info ← infoOf raw
  let dirName := textOr (raw.get "dir_name")
  let containers ← (← listed raw "containers").mapM containerOf
  let topLevel ← (← listed raw "top_level").mapM topLevelOf
  return ⟨{ info.withKind "library" with
    dirName := if dirName.isEmpty then dirNameOf info.name else dirName,
    topLevel := topLevel }, containers⟩

def topicOf (v : Value) : Reading Topic := do
  let info ← infoOf (← entriesOf v)
  return { info.withKind "category" with entities := [] }

/-- A package whose members are still named ones. -/
structure NamedPackage where
  package : Package
  libraries : List NamedLibrary

def packageOf (v : Value) : Reading NamedPackage := do
  let raw ← entriesOf v
  let info ← infoOf raw
  if info.name.isEmpty then throw .namelessPackage
  let libraries ← (← listed raw "libraries").mapM libraryOf
  let topics ← (← listed raw "categories").mapM topicOf
  return ⟨{ info.withKind "package" with
    description := textOr (raw.get "description"), version := textOr (raw.get "version"),
    repository := textOr (raw.get "repository"), isLocal := flag raw "is_local" true,
    topics := topics }, libraries⟩

end ApiSite.Model
