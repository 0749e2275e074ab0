import ApiSite.Page.TopLevel
import ApiSite.Page.Package

/-!
The pages of a site, each with the file that it is written to.
-/

set_option autoImplicit false

namespace ApiSite.Page

open Model Doc

/-- The page of an entity; a member has none of its own. -/
def entity? (site : Site) (e : Entity) : Option (Rendering Text) :=
  match e.node with
  | .package p => some (package site e p)
  | .topic t => some (topic site t)
  | .library _ => some (library site e)
  | .container c => some (container site e c)
  | .topLevel t => some (topLevel site e t)
  | .member _ => none

end ApiSite.Page

namespace ApiSite.Run

open Model Doc

/-- A page that is to be rendered and written. -/
structure PageJob where
  path : Text
  render : Rendering Text

/-- The page that stands above all others. -/
def rootJob (site : Site) : PageJob :=
  let render := if site.model.isWorkspace then Page.workspace site
    else
      match site.model.entities.head? with
      | some ⟨place, .package p, outer⟩ => Page.package site ⟨place, .package p, outer⟩ p
      | _ => pure []
  ⟨"api/index.md", render⟩

/-- The page of an entity that has a file and a page. -/
def entityJob? (site : Site) (e : Entity) : Option PageJob := do
  let path ← site.location.filePath? e
  some ⟨path, ← Page.entity? site e⟩

/-- The pages of a library that has one itself. -/
def libraryJobs (site : Site) (library : Entity) : List PageJob :=
  match entityJob? site library with
  | none => []
  | some job => job :: (library.containers ++ library.topLevel).filterMap (entityJob? site)

/-- Whether a topic has entities. -/
def isFilled (e : Entity) : Bool :=
  match e.node with
  | .topic t => !t.entities.isEmpty
  | _ => false

/-- The pages of a package. -/
def packageJobs (site : Site) (package : Entity) : List PageJob :=
  (site.location.navigableLibraries package).flatMap (libraryJobs site) ++
    (package.topics.filter isFilled).filterMap (entityJob? site)

/-- All pages in the order in which they are written. -/
def pageJobs (site : Site) : List PageJob :=
  rootJob site :: site.model.localPackages.flatMap (packageJobs site)

end ApiSite.Run
