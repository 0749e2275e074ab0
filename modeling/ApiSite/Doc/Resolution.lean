import ApiSite.Doc.Directive
import ApiSite.Doc.LegacyLink
import ApiSite.Doc.Rendering
import ApiSite.Site

/-!
Resolution of the references in an entity's documentation: a link where the declaration that is
meant has a page or an address of its own, and code otherwise.
-/

set_option autoImplicit false

namespace ApiSite.Doc

open Model Markup

/-- Whether the name of a constructor means this one: an unnamed one has to be asked for, and a
member of the same name hides one with a name. -/
def acceptsConstructor (wanted : Bool) (e : Entity) : Bool :=
  match e.node with
  | .member _ =>
    if e.kind != "constructor" then true
    else if e.isUnnamedConstructor then wanted
    else
      match e.parent? with
      | none => true
      | some enclosing =>
        let last := ((Text.splitOn '.' e.name).getLast?).getD []
        (enclosing.child? last).any fun (shadow : Entity) => shadow.kind == "constructor"
  | _ => true

/-- Whether a reference can mean an entity. -/
def accepts (r : Reference) (e : Entity) : Bool :=
  if r.wantsCallable then e.capabilities.isCallable else acceptsConstructor r.wantsConstructor e

/-- The entity that a reference in the documentation of `e` means. -/
def lookUp? (e : Entity) (r : Reference) : Option Entity := e.lookUp? r.parts (accepts r)

/-- Whether an entity and its library are public. -/
def isReachable (e : Entity) : Bool := e.isPublic && e.library?.all Entity.isPublic

/-- What a reference becomes. -/
inductive Resolution where
  | code
  | link (href : Text)
  deriving DecidableEq, Repr

/-- The address that a document gives for an entity outside the site. -/
def outsideAddress (href : Value) : Except Error Text :=
  if !href.isTrue then .ok []
  else
    match href with
    | .text t =>
      let t := Text.replace baseMark [] t
      .ok (if !t.isEmpty && !Text.startsWith "http" t && Text.endsWith ".html" t then convertPath t
        else t)
    | _ => .error .shape

/-- What a reference to an entity becomes. -/
def resolveTarget (loc : Location) (e : Entity) : Except Error Resolution :=
  if !isReachable e then .ok .code
  else
    match loc.link? e with
    | some url => .ok (.link url)
    | none => do
      let href ← outsideAddress e.info.href
      return if href.isEmpty then .code else .link href

/-- What a reference in the documentation of `e` becomes. -/
def resolve (loc : Location) (e : Entity) (r : Reference) : Except Error Resolution :=
  match lookUp? e r with
  | none => .ok .code
  | some target => resolveTarget loc target

/-- The element that stands for a reference. -/
def Resolution.element (text : Text) : Resolution → Element
  | code => .ofText "code" (Block.escapeCode text)
  | link href => .mk "a" [("href", some href)] (some (escapeLabel text)) [] none

/-- The element that a bracketed text in the documentation of `e` becomes; an empty one becomes
none. -/
def elementFor (loc : Location) (e : Entity) (text : Text) : Except Error (Option Element) :=
  if text.isEmpty then .ok none
  else (resolve loc e (Reference.parse text)).map fun r => some (r.element text)

/-- Counts a bracketed text as a reference, and fails where it cannot be resolved. -/
def recordReference (loc : Location) (e : Entity) (text : Text) : Rendering Unit :=
  if text.isEmpty then pure ()
  else do
    let r := Reference.parse text
    let name := if r.name.isEmpty then text else r.name
    modify (Progress.record name (lookUp? e r).isSome)
    match resolve loc e r with
    | .ok _ => pure ()
    | .error error => throw error

/-- The element for a reference, counted. -/
def resolveReference (loc : Location) (e : Entity) (text : Text) : Rendering (Option Element) := do
  recordReference loc e text
  match elementFor loc e text with
  | .ok element => return element
  | .error error => throw error

end ApiSite.Doc
