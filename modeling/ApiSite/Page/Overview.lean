import ApiSite.Doc.Documentation
import ApiSite.Page.Heading
import ApiSite.Page.Part
import ApiSite.Table
import ApiSite.Text.Sort

/-!
Overviews: tables of entities, one for each section, and the page of a library, which is an overview
of what is in it.
-/

set_option autoImplicit false

namespace ApiSite.Page

open Model Doc

/-- The sections of an overview in their order, each with the word for one of its entities. -/
def overviewTitles : List (Text × Text) :=
  [("Classes", "Class"), ("Exceptions", "Exception"), ("Enums", "Enum"), ("Mixins", "Mixin"),
    ("Extensions", "Extension"), ("Extension Types", "Extension Type"), ("Functions", "Function"),
    ("Properties", "Property"), ("Constants", "Constant"), ("Typedefs", "Typedef")]

/-- A section of an overview with its entities. -/
structure Group where
  title : Text
  /-- The word for one entity. -/
  singular : Text
  entities : List Entity

/-- Public entities by sections, and by name in each. -/
def groupEntities (entities : List Entity) : List Group :=
  overviewTitles.map fun (title, singular) =>
    ⟨title, singular, Text.sortByName Entity.name
      (entities.filter fun (e : Entity) => e.isPublic && overviewTitle? e == some title)⟩

/-- The name of an entity with a link, and its description. -/
def nameAndDescription (site : Site) (e : Entity) : Rendering (Text × Text) := do
  let link := entityLink site e
  let line ← Doc.renderLine site e
  if e.info.isDeprecated then
    return ("~~" ++ link ++ "~~", if line.isEmpty then [] else "**Deprecated.** " ++ line)
  else return (link, line)

/-- The type that an extension is on. -/
def extendedText (e : Entity) : Text :=
  match e.node with
  | .container c => (c.extendedType.map fun t => escapeBrackets t.display).getD []
  | _ => []

/-- The table of a group. -/
def groupTable (site : Site) (g : Group) : Rendering Text := do
  let rows ← g.entities.mapM fun e => return (e, ← nameAndDescription site e)
  if g.title == "Extensions" then
    return Table.render (Text.ofStrings ["Extension", "on", "Description"])
      (rows.map fun (e, name, description) => [name, extendedText e, description])
  else
    return Table.render [g.singular, "Description"]
      (rows.map fun (_, name, description) => [name, description])

/-- A table of each section that has entities with pages. -/
def overview (site : Site) (entities : List Entity) : Rendering (List Text) := do
  let groups := (groupEntities entities).map fun g =>
    { g with entities := g.entities.filter fun e => (site.location.link? e).isSome }
  let tables ← (groups.filter fun g => !g.entities.isEmpty).mapM fun g => do
    return sectionHeading g.title ++ [← groupTable site g, []]
  return tables.flatten

/-- The page of a library. -/
def library (site : Site) (e : Entity) : Rendering Text := do
  let head :=
    metadata e.name ("API documentation for the " ++ e.name ++ " library") (.levels [2, 3])
  let doc ← Doc.render site e
  let tables ← overview site (e.containers ++ e.topLevel)
  return join (head ++ breadcrumb ++ titleHeading e.name ++
    paragraph (dropRepeatedTitle e.name doc) ++ tables)

end ApiSite.Page
