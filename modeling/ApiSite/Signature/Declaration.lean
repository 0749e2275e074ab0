import ApiSite.Site
import ApiSite.Signature.Markup

/-!
The signatures of declarations, with links to the types that have pages. A list of parameters that
is too wide for a line has one parameter on each.
-/

set_option autoImplicit false

namespace ApiSite.Signature

open Model

/-- The name of a type, with a link where its declaration is public and has a page. -/
def typeName (site : Site) (t : TypeRef) : Text :=
  let name := escape t.name
  let target := (site.targetOf t).filter Entity.isPublic
  match target.bind site.location.url? with
  | some url => "<a href=\"" ++ url ++ "\" class=\"type-link\">" ++ name ++ "</a>"
  | none => span "type" name

/-- Markup between angle brackets. -/
def bracketed (items : List Text) : Text := "&lt;" ++ Text.join ", " items ++ "&gt;"

mutual

/-- A type. -/
def typeMarkup (site : Site) : TypeRef → Text
  | .mk name arguments nullable href wanted target =>
    let inner : Text := if arguments.isEmpty then [] else bracketed (typeMarkups site arguments)
    typeName site (.mk name arguments nullable href wanted target) ++ inner ++
      if nullable then ['?'] else []

def typeMarkups (site : Site) : List TypeRef → List Text
  | [] => []
  | t :: rest => typeMarkup site t :: typeMarkups site rest

end

/-- A type that may be left out. -/
def typeOrDynamic (site : Site) (t : Option TypeRef) : Text :=
  (t.map (typeMarkup site)).getD (span "type" "dynamic")

/-- A type parameter with its bound. -/
def typeParameter (site : Site) (p : TypeParameter) : Text :=
  let bound := p.bound.map fun t => " " ++ keyword "extends" ++ " " ++ typeMarkup site t
  escape p.name ++ bound.getD []

def typeParameters (site : Site) (ps : List TypeParameter) : Text :=
  if ps.isEmpty then [] else bracketed (ps.map (typeParameter site))

/-- A value after an equals sign, unless it is missing or empty. -/
def assigned (value : Option Text) : Text :=
  match value with
  | none => []
  | some [] => []
  | some v => " = " ++ literal v

/-- A parameter. -/
def parameter (site : Site) (p : Parameter) : Text :=
  let required : Text :=
    if p.kind == .named && p.isRequired then keyword "required" ++ " " else []
  let name : Text := if p.name.isEmpty then [] else " " ++ span "param" (escape p.name)
  required ++ typeOrDynamic site p.type ++ name ++ assigned p.fallback

/-- The parameters of a signature by their kinds. -/
structure ParameterGroups where
  positional : List Text
  optional : List Text
  named : List Text

def groupParameters (site : Site) (ps : List Parameter) : ParameterGroups :=
  let ofKind (kind : ParameterKind) : List Text :=
    (ps.filter fun p => p.kind == kind).map (parameter site)
  ⟨ofKind .positional, ofKind .optional, ofKind .named⟩

/-- The brackets of optional parameters. -/
def optionalBrackets : Char × Char := ('[', ']')

/-- The brackets of named parameters. -/
def namedBrackets : Char × Char := ('\x7b', '\x7d')

/-- All parameters on one line. Named ones are shown only where no optional ones are. -/
def wideParameters (g : ParameterGroups) : Text :=
  let group (brackets : Char × Char) (ps : List Text) : List Text :=
    [brackets.1 :: Text.join ", " ps ++ [brackets.2]]
  let last := if !g.optional.isEmpty then group optionalBrackets g.optional
    else if !g.named.isEmpty then group namedBrackets g.named
    else []
  "(" ++ Text.join ", " (g.positional ++ last) ++ ")"

/-- Lines with a parameter on each. -/
def parameterLines (ps : List Text) : Text := ps.flatMap fun p => "  " ++ p ++ ",\n"

/-- Each parameter on a line of its own. Optional ones are shown only where no named ones are. -/
def tallParameters (g : ParameterGroups) : Text :=
  let (brackets, rest) :=
    if g.named.isEmpty then (optionalBrackets, g.optional) else (namedBrackets, g.named)
  match g.positional.getLast? with
  | none => "(" ++ [brackets.1] ++ "\n" ++ parameterLines rest ++ [brackets.2] ++ ")"
  | some last =>
    if rest.isEmpty then "(\n" ++ parameterLines g.positional ++ ")"
    else
      "(\n" ++ parameterLines g.positional.dropLast ++ "  " ++ last ++ ", " ++ [brackets.1] ++
        "\n" ++ parameterLines rest ++ [brackets.2] ++ ")"

/-- The parameters of a signature that begins with `before` characters. -/
def parameters (site : Site) (ps : List Parameter) (before : Nat) (width : Int) : Text :=
  if ps.isEmpty then "()"
  else
    let groups := groupParameters site ps
    let wide := wideParameters groups
    if (before + shownLength wide : Int) ≤ width then wide else tallParameters groups

/-- The type parameters of an entity that can have them. -/
def typeParametersOf (e : Entity) : List TypeParameter :=
  match e.node with
  | .container c => c.typeParameters
  | .topLevel t => t.typeParameters
  | .member m => m.typeParameters
  | _ => []

/-- A type parameter as plain text. -/
def plainTypeParameter (p : TypeParameter) : Text :=
  match p.bound with
  | none => p.name
  | some t => p.name ++ " extends " ++ t.display

/-- The name of an entity with its type parameters, as plain text. -/
def plainName (e : Entity) : Text :=
  match typeParametersOf e with
  | [] => e.displayName
  | ps => e.displayName ++ "<" ++ Text.join ", " (ps.map plainTypeParameter) ++ ">"

/-- What an entity says in its signature. -/
def signed (e : Entity) : Signed :=
  match e.node with
  | .topLevel t => t.toSigned
  | .member m => m.toSigned
  | _ => {}

/-- A signature with parameters behind its opening. -/
def withParameters (site : Site) (opening : Text) (s : Signed) (width : Int) : Text :=
  opening ++ parameters site s.parameters (shownLength opening) width

/-- The signature of a function, method or operator. -/
def callable (site : Site) (e : Entity) (width : Int) : Text :=
  let s := signed e
  withParameters site (typeOrDynamic site s.returnType ++ " " ++ declared (plainName e)) s width

/-- A keyword with a space behind it, where it applies. -/
def keywordIf (applies : Bool) (word : Text) : Text := if applies then keyword word ++ " " else []

/-- The signature of a constructor. -/
def constructor (site : Site) (e : Entity) (width : Int) : Text :=
  let s := signed e
  let isFactory := match e.node with
    | .member m => m.isFactory
    | _ => false
  withParameters site
    (keywordIf s.isConst "const" ++ keywordIf isFactory "factory" ++ declared e.displayName) s width

/-- The value of a constant. -/
def constantValue (s : Signed) : Text := if s.isConst then assigned s.constantValue else []

/-- The signature of a field or an accessor. -/
def field (site : Site) (e : Entity) : Text :=
  let s := signed e
  let type := typeOrDynamic site s.returnType
  let name := declared (Text.trimEnd (· == '=') e.name)
  let modifiers : Text :=
    keywordIf s.isConst "const" ++
      keywordIf (!s.isConst && s.attributes.contains "final") "final" ++
      keywordIf (s.attributes.contains "late") "late"
  let body : Text :=
    if e.kind == "getter" then type ++ " " ++ keyword "get" ++ " " ++ name
    else if e.kind == "setter" then
      keyword "set" ++ " " ++ name ++ "(" ++ type ++ " " ++ span "param" "value" ++ ")"
    else type ++ " " ++ name
  modifiers ++ body ++ constantValue s

/-- The signature of a variable of a library. -/
def variableOf (site : Site) (e : Entity) : Text :=
  let s := signed e
  let isFinal := match e.node with
    | .topLevel t => t.isFinal
    | _ => false
  keywordIf s.isConst "const" ++ keywordIf (!s.isConst && isFinal) "final" ++
    typeOrDynamic site s.returnType ++ " " ++ declared e.name ++ constantValue s

/-- The signature of a type definition. -/
def typeDefinition (site : Site) (e : Entity) (width : Int) : Text :=
  let s := signed e
  let opening := keyword "typedef" ++ " " ++ declared (plainName e) ++ " = "
  let aliased := match e.node with
    | .topLevel t => t.aliasedType
    | _ => none
  match aliased with
  | some t => opening ++ typeMarkup site t
  | none =>
    withParameters site
      (opening ++ typeOrDynamic site s.returnType ++ " " ++ span "type" "Function") s width

/-- Types that a declaration does not show as a base. -/
def isHiddenBase (t : TypeRef) : Bool := t.name == "Object" || t.name == "Enum"

/-- Types after a keyword, where there are any. -/
def typesAfter (site : Site) (word : Text) (ts : List TypeRef) : Text :=
  if ts.isEmpty then []
  else " " ++ keyword word ++ " " ++ Text.join ", " (ts.map (typeMarkup site))

/-- The modifiers that a declaration shows: what is sealed is abstract too. -/
def shownModifiers (c : Container) : List Text :=
  if (Text.ofStrings ["class", "enum", "mixin"]).contains c.kind then
    c.modifiers.filter fun m => !(m == "abstract" && c.modifiers.contains "sealed")
  else []

/-- The declaration of a container. -/
def container (site : Site) (c : Container) : Text :=
  let modifiers : Text := (shownModifiers c).flatMap (keywordIf true)
  let opening := modifiers ++ keywordIf true (kindWords c.kind) ++ declared c.name ++
    typeParameters site c.typeParameters
  if c.kind == "extension" then opening ++ typesAfter site "on" c.extendedType.toList
  else
    let representation : Text :=
      if c.kind == "extension_type" then "(" ++ typeOrDynamic site c.extendedType ++ ")" else []
    let constraints :=
      if c.kind == "mixin" then c.superclassConstraints.filter fun t => !isHiddenBase t else []
    opening ++ representation ++ typesAfter site "on" constraints ++
      typesAfter site "extends" (c.supertype.toList.filter fun t => !isHiddenBase t) ++
      typesAfter site "with" c.mixins ++ typesAfter site "implements" c.interfaces

end ApiSite.Signature
