import ApiSite.Count
import ApiSite.Doc.Documentation
import ApiSite.Page.Heading
import ApiSite.Page.Part
import ApiSite.Page.Section

/-!
The page of a container: what it is, what it is made from, and its members section by section.
-/

set_option autoImplicit false

namespace ApiSite.Page

open Model Doc

/-! ### Members -/

/-- Says which extension a member comes from. -/
def providerLine (site : Site) (provider : Entity) : List Text :=
  let extended := match provider.node with
    | .container c => c.extendedType
    | _ => none
  let onType : Text := match extended with
    | none => "unknown"
    | some t => ((site.targetOf t).map (entityLink site)).getD (escapeBrackets t.display)
  paragraph ("*Available on " ++ onType ++ ", provided by the " ++ entityLink site provider ++
    " extension*")

/-- Where a member comes from. -/
def origin (site : Site) (m : Member) : List Text :=
  let inherited := (m.inheritedFrom >>= site.model.entity?).map fun (e : Entity) =>
    paragraph ("*Inherited from " ++ escapeBrackets e.name ++ ".*")
  let provided := (m.provider >>= site.model.entity?).map (providerLine site)
  inherited.getD [] ++ provided.getD []

/-- The documentation of a member below its heading. -/
def memberDoc (site : Site) (e : Entity) (anchor : Text) : Rendering (List Text) := do
  return paragraph (lowerHeadings anchor (← Doc.render site e))

/-- The title of a member. -/
def memberTitle (e : Entity) : Section → Text
  | .values => e.name
  | .properties | .staticProperties | .constants => Text.trimEnd (· == '=') e.name
  | .constructors | .methods | .operators | .staticMethods => e.displayName ++ "()"

/-- The signature of a member. -/
def memberSignature (site : Site) (e : Entity) : Section → Text
  | .constructors => Signature.constructor site e site.wrapWidth
  | .properties | .staticProperties | .constants => Signature.field site e
  | _ => Signature.callable site e site.wrapWidth

/-- A value of an enumeration. -/
def enumValue (site : Site) (e : Entity) (anchor : Text) : Rendering (List Text) := do
  return memberHeading (memberTitle e .values) anchor e.info.isDeprecated ++ deprecationOf e ++
    (← memberDoc site e anchor)

/-- A member that is no value of an enumeration. -/
def member (site : Site) (e : Entity) (m : Member) (s : Section) (anchor : Text) :
    Rendering (List Text) := do
  let heading := memberHeading (memberTitle e s) anchor e.info.isDeprecated (memberBadges m)
  let doc ← memberDoc site e anchor
  let code ← implementation m.sourceCode
  return heading ++ signature (memberSignature site e s) ++ deprecationOf e ++ doc ++
    origin site m ++ annotations e ++ sourceLink m.sourceUrl ++ code

/-- A member as its section shows it. -/
def sectionMember (site : Site) (s : Section) (e : Entity) (anchor : Text) :
    Rendering (List Text) :=
  match s, e.node with
  | .values, _ => enumValue site e anchor
  | s, .member m => member site e m s anchor
  | _, _ => pure []

/-- The anchor that a member asks for. -/
def wantedAnchor (e : Entity) : Text :=
  ((Location.anchor? e).bind Location.nonempty).getD (Text.lower e.name)

/-- Gives each of some members its anchor, none of which has been used before. -/
def assignAnchors : List Entity → List Text → List (Entity × Text) × List Text
  | [], used => ([], used)
  | e :: rest, used =>
    let (anchor, used) := Naming.uniqueAnchor (wantedAnchor e) used
    let (others, used) := assignAnchors rest used
    ((e, anchor) :: others, used)

/-- Sections with the anchors of their members. -/
def anchorSections :
    List (Section × List Entity) → List Text → List (Section × List (Entity × Text))
  | [], _ => []
  | (s, members) :: rest, used =>
    let (members, used) := assignAnchors members used
    (s, members) :: anchorSections rest used

/-- The members of a container, section by section. -/
def members (site : Site) (container : Entity) (used : List Text) : Rendering (List Text) := do
  let sections ← (anchorSections (memberSections container) used).mapM fun (s, members) => do
    let blocks ← members.mapM fun (e, anchor) => sectionMember site s e anchor
    return sectionHeading s.title ++ blocks.flatten
  return sections.flatten

/-! ### Containers -/

/-- The types that a container inherits from, the nearest first. It ends with a type that every
declaration has as a base, with one that is no container here, or with one that came before. -/
def inheritanceFrom (site : Site) : (fuel : Nat) → List Place → Option TypeRef → List TypeRef
  | 0, _, _ => []
  | _, _, none => []
  | fuel + 1, seen, some t =>
    if Signature.isHiddenBase t then []
    else
      t :: match site.targetOf t with
        | some ⟨place, .container c, _⟩ =>
          if seen.contains place then [] else inheritanceFrom site fuel (place :: seen) c.supertype
        | _ => []

/-- How many containers a model has. -/
def containerCount (m : Model) : Nat :=
  total (m.packages.map fun p => total (p.libraries.map fun l => l.containers.length))

/-- The types that a container inherits from, the nearest first. -/
def inheritance (site : Site) (place : Place) (c : Container) : List TypeRef :=
  inheritanceFrom site (containerCount site.model + 1) [place] c.supertype

/-- The way from the base of all declarations to a container. -/
def inheritanceBox (site : Site) (e : Entity) (c : Container) : List Text :=
  match inheritance site e.place c with
  | [] => []
  | chain =>
    let last := "**" ++ escapeBrackets (Signature.plainName e) ++ "**"
    let steps : List Text := "Object" :: (chain.reverse.map (typeLink site) ++ [last])
    box "info" "Inheritance" (Text.join " → " steps)

/-- A box with links to public entities by name. -/
def entityBox (site : Site) (title : Text) (places : List Place) : List Text :=
  let entities := (places.filterMap site.model.entity?).filter Entity.isPublic
  boxedList title ((Text.sortByName Entity.name entities).map (entityLink site))

/-- What a container is made from and what is made from it. -/
def relations (site : Site) (e : Entity) (c : Container) : List Text :=
  let isAny (kinds : List String) : Bool := (Text.ofStrings kinds).contains c.kind
  let isClass := isAny ["class", "enum", "mixin"]
  let links (title : Text) (types : List TypeRef) : List Text :=
    boxedList title (types.map (typeLink site))
  (if isClass then
    inheritanceBox site e c ++ links "Implemented types" c.interfaces ++
      links "Mixed-in types" c.mixins
  else []) ++
  (if isClass || isAny ["extension_type"] then entityBox site "Implementers" c.implementers
  else []) ++
  (if isClass then entityBox site "Available Extensions" c.extensions else []) ++
  (if isAny ["mixin"] then
    boxedList "Superclass Constraints"
      (c.superclassConstraints.map fun t => escapeBrackets t.display)
  else []) ++
  (if isAny ["extension"] then links "Extended type" c.extendedType.toList else [])

/-- The outline of a container's page: of a crowded page only the sections. -/
def outlineFor (container : Entity) (threshold : Value) : Except Doc.Error Outline :=
  match Settings.isAbove (memberCount container) threshold with
  | .ok isCrowded => .ok (.levels (if isCrowded then [2, 2] else [2, 3]))
  | .error _ => .error .shape

/-- The name of the library that an entity is in. -/
def libraryName (e : Entity) : Text := (e.library?.map Entity.name).getD []

/-- The page of a container. -/
def container (site : Site) (e : Entity) (c : Container) : Rendering Text := do
  let title := Signature.plainName e
  let threshold ← site.outlineThreshold.elim (throw .shape) pure
  let outline ← outlineFor e threshold
  let head := metadata title
    ("API documentation for " ++ title ++ " " ++ kindWords c.kind ++ " from " ++ libraryName e)
    outline (some (categoryLabel c)) (some (libraryName e))
  let doc ← Doc.render site e
  let members ← members site e [Naming.titleAnchor title]
  return join (head ++ breadcrumb ++ titleHeading title e.info.isDeprecated (modifierBadges c) ++
    signature (Signature.container site c) ++ deprecationOf e ++ annotations e ++ paragraph doc ++
    sourceLink c.sourceUrl ++ relations site e c ++ members)

end ApiSite.Page
