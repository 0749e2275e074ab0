import ApiSite.Page.Overview

/-!
The pages that stand above libraries: that of a package, that of a workspace of several packages,
and those of topics.
-/

set_option autoImplicit false

namespace ApiSite.Page

open Model Doc

/-- The libraries of a package with their descriptions; one that has none gets that of the
package. -/
def librariesTable (site : Site) (e : Entity) (p : Package) : Rendering (List Text) := do
  let rows ← (site.location.navigableLibraries e).mapM fun l => do
    let line ← Doc.renderLine site l
    return [entityLink site l, if line.isEmpty then p.description else line]
  if rows.isEmpty then return []
  else return [Table.render (Text.ofStrings ["Library", "Description"]) rows, []]

/-- What a package says about itself. -/
def introduction (p : Package) : List Text :=
  if p.documentation.isEmpty then paragraph p.description
  else paragraph (Doc.renderRaw (dropRepeatedTitle p.name p.documentation))

/-- The page of a package. -/
def package (site : Site) (e : Entity) (p : Package) : Rendering Text := do
  let head := metadata p.name ("API documentation for the " ++ p.name ++ " package") (.shown false)
  let table ← librariesTable site e p
  return join (head ++ titleHeading p.name ++ introduction p ++
    (if table.isEmpty then [] else sectionHeading "Libraries" ++ table))

/-- What the page of a workspace says about a package. -/
def workspacePart (site : Site) (e : Entity) : Rendering (List Text) :=
  match e.node with
  | .package p => do
    let table ← librariesTable site e p
    return memberHeading p.name (Text.replace " " "-" (Text.lower p.name)) ++
      paragraph p.description ++ table
  | _ => pure []

/-- The page of a workspace. -/
def workspace (site : Site) : Rendering Text := do
  let name := site.model.workspaceName
  let head := metadata name ("API documentation for the " ++ name ++ " workspace") (.levels [2, 3])
  let parts ← (Text.sortBy Entity.name site.model.localPackages).mapM (workspacePart site)
  return join (head ++ titleHeading name ++
    paragraph "This workspace contains the following packages." ++ sectionHeading "Packages" ++
    parts.flatten)

/-- The page of a topic. -/
def topic (site : Site) (t : Topic) : Rendering Text := do
  let head := metadata t.name ("API documentation for the " ++ t.name ++ " topic") (.levels [2, 3])
  let tables ← overview site (t.entities.filterMap site.model.entity?)
  return join (head ++ titleHeading t.name ++ paragraph (Doc.renderRaw t.documentation) ++ tables)

end ApiSite.Page
