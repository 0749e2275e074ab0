import ApiSite.Doc.Rendering
import ApiSite.Page.Block
import ApiSite.Signature.Declaration

/-!
The parts of pages that say something about one entity: its annotations, its badges, the source it
is in, and links to it.
-/

set_option autoImplicit false

namespace ApiSite.Page

open Model

/-- The message of an annotation that deprecates with one: a literal text on one line. -/
def deprecationMessage? (note : Text) : Option Text := do
  let t ← Text.after? "@Deprecated(" (Text.strip note)
  let t := Text.stripStart t
  let t := ((Text.after? "message:" t).map Text.stripStart).getD t
  match t with
  | quote :: t =>
    match t.reverse with
    | ')' :: t =>
      match t.dropWhile Text.isBlank with
      | last :: content =>
        if (quote == '"' || quote == '\'') && last == quote && !content.contains '\n' then
          some content.reverse
        else none
      | [] => none
    | _ => none
  | [] => none

/-- The message with which an entity is deprecated, if there is one. -/
def deprecationMessage (e : Entity) : Text :=
  (e.info.annotations.findSome? deprecationMessage?).getD []

/-- An annotation that says that something is deprecated. -/
def isDeprecation (note : Text) : Bool :=
  note == "@deprecated" || Text.startsWith "@Deprecated(" note

/-- The annotations of an entity. -/
def annotations (e : Entity) : List Text :=
  let shown := e.info.annotations.filter fun a => !isDeprecation a
  if shown.isEmpty then []
  else
    paragraph ("**Annotations:** " ++
      Text.join ", " (shown.map fun a => "\x60" ++ a ++ "\x60"))

/-- A link to the source of an entity. -/
def sourceLink (url : Value) : List Text :=
  if url.isTrue then paragraph ("[View source](" ++ url.shown ++ ")") else []

/-- The source code of an entity in a box that can be opened. -/
def implementation (code : Value) : Except Doc.Error (List Text) :=
  if !code.isTrue then .ok []
  else
    match code with
    | .text t => .ok (box "details" "Implementation" (codeBlock (Signature.unescape t) "dart"))
    | _ => .error .shape

/-- What is said about a deprecated entity. -/
def deprecationOf (e : Entity) : List Text :=
  if e.info.isDeprecated then deprecation (deprecationMessage e) else []

/-- The name of an entity with what it is generic in, with a link where it has a page. -/
def entityLink (site : Site) (e : Entity) : Text :=
  let name := escapeBrackets (match e.node with
    | .container _ | .topLevel _ => Signature.plainName e
    | _ => e.name)
  match site.location.link? e with
  | some [] => name
  | some url => "[" ++ name ++ "](" ++ url ++ ")"
  | none => name

/-- A type, with a link where its declaration is public. -/
def typeLink (site : Site) (t : TypeRef) : Text :=
  match (site.targetOf t).filter Entity.isPublic with
  | some e => entityLink site e
  | none => escapeBrackets t.display

/-- The kinds of badges for what fields say about themselves. -/
def attributeBadges : List (Text × Text) :=
  [("no setter", "tip"), ("no getter", "tip"), ("read / write", "tip"),
    ("inherited-getter", "info"), ("inherited-setter", "info"), ("override-getter", "info"),
    ("override-setter", "info"), ("extended", "info"), ("late", "warning"), ("final", "tip"),
    ("covariant", "info")]

def attributeBadge? (t : Text) : Option Text :=
  (attributeBadges.find? (·.1 == t)).map fun b => badge b.2 t

/-- A badge, where it applies. -/
def badgeIf (applies : Bool) (kind text : String) : List Text :=
  if applies then [badge kind.toList text.toList] else []

/-- The badges of a member. -/
def memberBadges (m : Member) : List Text :=
  if m.kind == "constructor" then
    badgeIf m.isFactory "tip" "factory" ++ badgeIf m.isConst "tip" "const"
  else
    badgeIf (m.isStatic && (m.kind == "method" || m.kind == "operator")) "info" "static" ++
      badgeIf m.isAbstract "info" "abstract" ++
      badgeIf m.inheritedFrom.isSome "info" "inherited" ++
      badgeIf m.isOverride "info" "override" ++
      badgeIf m.provider.isSome "info" "extension" ++
      if (Text.ofStrings ["field", "getter", "setter"]).contains m.kind then
        m.attributes.filterMap attributeBadge?
      else []

/-- Modifiers that what is sealed has in any case. -/
def impliedModifiers : List Text := Text.ofStrings ["abstract", "interface", "final"]

/-- The badges of a container. -/
def modifierBadges (c : Container) : List Text :=
  if (Text.ofStrings ["class", "enum", "mixin", "extension_type"]).contains c.kind then
    (c.modifiers.filter fun m =>
      !(impliedModifiers.contains m && c.modifiers.contains "sealed")).map (badge "info")
  else []

/-- The titles of the sections that overviews have for containers. -/
def containerTitles : List (Text × Text) :=
  [("class", "Classes"), ("enum", "Enums"), ("mixin", "Mixins"), ("extension", "Extensions"),
    ("extension_type", "Extension Types")]

/-- The section of an overview that a container is in, by its kind. -/
def containerTitle? (c : Container) : Option Text :=
  if c.kind == "class" && c.isException then some "Exceptions"
  else (containerTitles.find? (·.1 == c.kind)).map (·.2)

/-- The category that a container's page names. -/
def categoryLabel (c : Container) : Text := (containerTitle? c).getD "Classes"

/-- The section of an overview that an entity is in. -/
def overviewTitle? (e : Entity) : Option Text :=
  match e.node with
  | .container c => containerTitle? c
  | .topLevel t =>
    if t.kind == "function" then some "Functions"
    else if t.kind == "typedef" then some "Typedefs"
    else if t.kind == "variable" then some (if t.isConst then "Constants" else "Properties")
    else none
  | _ => none

end ApiSite.Page
