import ApiSite.Page.Overview
import ApiSite.Scaffold

/-!
The navigation of the site: a group for each library with its declarations by section, and one for
topics. Beside it stand the other files that each run writes anew.
-/

set_option autoImplicit false

namespace ApiSite.Navigation

open Model

/-- Where the navigation is written. -/
def path : Text := ".vitepress/generated/api-sidebar.ts"

/-- Where the navigation of the guide is written. -/
def guidePath : Text := ".vitepress/generated/guide-sidebar.ts"

/-- Where the styles of signatures are written. -/
def stylesPath : Text := ".vitepress/generated/api-styles.css"

/-- The navigation of a guide without pages. -/
def guide : Text := Scaffold.file [
  "import type \x7b DefaultTheme \x7d from 'vitepress'",
  "",
  "export const guideSidebar: DefaultTheme.Sidebar = \x7b\x7d"]

/-- The styles of signatures. -/
def styles : Text := Scaffold.file [
  ".member-signature pre \x7b",
  "  margin: 0;",
  "  padding: 12px 16px;",
  "  overflow-x: auto;",
  "  border-radius: 8px;",
  "  background-color: var(--vp-code-block-bg);",
  "  font-family: var(--vp-font-family-mono);",
  "  font-size: 14px;",
  "  line-height: 1.6;",
  "\x7d",
  "",
  ".member-signature code \x7b",
  "  color: var(--vp-c-text-1);",
  "\x7d",
  "",
  ".member-signature .kw \x7b",
  "  color: var(--vp-c-purple-1);",
  "\x7d",
  "",
  ".member-signature .fn \x7b",
  "  color: var(--vp-c-indigo-1);",
  "  font-weight: 600;",
  "\x7d",
  "",
  ".member-signature .param \x7b",
  "  color: var(--vp-c-text-2);",
  "\x7d",
  "",
  ".member-signature .type \x7b",
  "  color: var(--vp-c-green-1);",
  "\x7d",
  "",
  ".member-signature .type-link \x7b",
  "  color: var(--vp-c-green-1);",
  "  text-decoration: underline dotted;",
  "\x7d",
  "",
  ".member-signature .num-lit,",
  ".member-signature .str-lit \x7b",
  "  color: var(--vp-c-yellow-1);",
  "\x7d"]

/-- An item: a name and an address. -/
structure Item where
  name : Text
  link : Text

/-- A section of a library. -/
structure Section where
  title : Text
  items : List Item

/-- A library with its sections. -/
structure LibraryGroup where
  name : Text
  url : Text
  sections : List Section

/-- The navigation of a package. -/
structure PackageGroup where
  libraries : List LibraryGroup
  topics : List Item

/-- The item of a declaration, with its address from that of its library on. -/
def itemOf? (loc : Location) (url : Text) (e : Entity) : Option Item :=
  (loc.url? e).map fun link => ⟨e.name, Text.dropStart url link⟩

/-- The sections of a library that have items. -/
def sectionsOf (loc : Location) (url : Text) (library : Entity) : List Section :=
  let groups := Page.groupEntities (library.containers ++ library.topLevel)
  (groups.map fun g => ⟨g.title, g.entities.filterMap (itemOf? loc url)⟩).filter fun
    (s : Section) => !s.items.isEmpty

/-- The group of a library that has a page. -/
def libraryGroup? (loc : Location) (library : Entity) : Option LibraryGroup :=
  (loc.url? library).map fun url => ⟨library.name, url, sectionsOf loc url library⟩

/-- Whether a topic has entities. -/
def isFilled (topic : Entity) : Bool :=
  match topic.node with
  | .topic t => !t.entities.isEmpty
  | _ => false

/-- The navigation of a package. -/
def packageGroup (loc : Location) (package : Entity) : PackageGroup :=
  ⟨(loc.navigableLibraries package).filterMap (libraryGroup? loc),
    (package.topics.filter isFilled).map fun (t : Entity) => ⟨t.name, (loc.url? t).getD []⟩⟩

/-- An item on a line. -/
def itemLine (indent : Nat) (i : Item) : Text :=
  Text.spaces indent ++ "\x7b text: " ++ Scaffold.literal i.name ++ ", link: " ++
    Scaffold.literal i.link ++ " \x7d,"

/-- The lines of a section. -/
def sectionLines (s : Section) : List Text :=
  let opening : List Text := ["        \x7b", "          text: " ++ Scaffold.literal s.title ++ ",",
    "          collapsed: true,", "          items: ["]
  let closing : List Text := ["          ],", "        \x7d,"]
  opening ++ s.items.map (itemLine 12) ++ closing

/-- The lines of a library. -/
def libraryLines (l : LibraryGroup) : List Text :=
  let opening : List Text := ["    \x7b", "      text: " ++ Scaffold.literal l.name ++ ",",
    "      base: " ++ Scaffold.literal l.url ++ ",", "      collapsed: true,", "      items: [",
    itemLine 8 ⟨"Overview", "index"⟩]
  let closing : List Text := ["      ],", "    \x7d,"]
  opening ++ l.sections.flatMap sectionLines ++ closing

/-- The lines of topics, where there are any. -/
def topicLines (topics : List Item) : List Text :=
  let opening : List Text :=
    ["    \x7b", "      text: 'Topics',", "      collapsed: true,", "      items: ["]
  let closing : List Text := ["      ],", "    \x7d,"]
  if topics.isEmpty then [] else opening ++ topics.map (itemLine 8) ++ closing

/-- The lines of a package. -/
def packageLines (g : PackageGroup) : List Text :=
  g.libraries.flatMap libraryLines ++ topicLines g.topics

/-- The file of the navigation. -/
def render (loc : Location) (packages : List Entity) : Text :=
  let opening : List Text := ["import type \x7b DefaultTheme \x7d from 'vitepress'", [],
    "export const apiSidebar: DefaultTheme.Sidebar = \x7b", "  '/api/': ["]
  let closing : List Text := ["  ],", "\x7d", []]
  let groups := (packages.filter Location.isLocal).map (packageGroup loc)
  Text.unlines (opening ++ groups.flatMap packageLines ++ closing)

end ApiSite.Navigation
