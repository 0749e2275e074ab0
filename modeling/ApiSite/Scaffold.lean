import ApiSite.Text.Substitute
import ApiSite.Text.WordChar
import ApiSite.Text.LetterCase

/-!
The files that a new site starts with. They are written once and belong to the site from then on;
places marked with two braces on each side are filled in when a file is written.
-/

set_option autoImplicit false

namespace ApiSite.Scaffold

/-- A file of lines. -/
def file (lines : List String) : Text := lines.flatMap fun line => line.toList ++ ['\n']

/-- The package of the site. -/
def packageFile : Text := file [
  "\x7b",
  "  \"name\": \"\x7b\x7bnpmPackageName\x7d\x7d-docs\",",
  "  \"private\": true,",
  "  \"type\": \"module\",",
  "  \"scripts\": \x7b",
  "    \"docs:dev\": \"vitepress dev\",",
  "    \"docs:build\": \"vitepress build\",",
  "    \"docs:preview\": \"vitepress preview\"",
  "  \x7d,",
  "  \"devDependencies\": \x7b",
  "    \"vitepress\": \"^1.6.3\"",
  "  \x7d",
  "\x7d"]

/-- The configuration of the site. -/
def configFile : Text := file [
  "import \x7b defineConfig \x7d from 'vitepress'",
  "import \x7b apiSidebar \x7d from './generated/api-sidebar'",
  "import \x7b guideSidebar \x7d from './generated/guide-sidebar'",
  "",
  "export default defineConfig(\x7b",
  "  title: '\x7b\x7bpackageName\x7d\x7d API',",
  "  description: 'API documentation for \x7b\x7bpackageName\x7d\x7d',",
  "  ignoreDeadLinks: true,",
  "  lastUpdated: true,",
  "  themeConfig: \x7b",
  "    outline: \x7b level: [2, 4] \x7d,",
  "    search: \x7b",
  "      provider: 'local',",
  "    \x7d,",
  "    nav: [",
  "      \x7b text: 'Guide', link: '/guide/' \x7d,",
  "      \x7b text: 'API Reference', link: '/api/' \x7d,",
  "    ],",
  "    sidebar: \x7b",
  "      ...apiSidebar,",
  "      ...guideSidebar,",
  "    \x7d,",
  "    socialLinks: \x7b\x7bsocialLinks\x7d\x7d,",
  "  \x7d,",
  "\x7d)"]

/-- The page that visitors come to first. -/
def homeFile : Text := file [
  "---",
  "layout: home",
  "",
  "hero:",
  "  name: \"\x7b\x7bpackageName\x7d\x7d\"",
  "  text: \"API Documentation\"",
  "  actions:",
  "    - theme: brand",
  "      text: Guide",
  "      link: /guide/",
  "    - theme: alt",
  "      text: API Reference",
  "      link: /api/",
  "---"]

/-- The first page of the guide. -/
def guideFile : Text := file [
  "# Guide",
  "",
  "Write your guide pages in this directory."]

/-- What version control leaves out. -/
def ignoreFile : Text := file [
  "node_modules/",
  ".vitepress/dist/",
  ".vitepress/cache/"]

/-- The entry of the theme. -/
def themeFile : Text := file [
  "import DefaultTheme from 'vitepress/theme'",
  "import './custom.css'",
  "import '../generated/api-styles.css'",
  "import ApiBreadcrumb from './components/ApiBreadcrumb.vue'",
  "",
  "export default \x7b",
  "  extends: DefaultTheme,",
  "  enhanceApp(\x7b app \x7d) \x7b",
  "    app.component('ApiBreadcrumb', ApiBreadcrumb)",
  "  \x7d",
  "\x7d"]

/-- The styles of the theme. -/
def styleFile : Text := file [
  ":root \x7b",
  "  --vp-nav-bg-color: rgba(255, 255, 255, 0.7);",
  "\x7d",
  "",
  ".dark \x7b",
  "  --vp-nav-bg-color: rgba(27, 27, 31, 0.7);",
  "\x7d",
  "",
  ".VPNav \x7b",
  "  backdrop-filter: blur(12px);",
  "\x7d"]

/-- The component that shows the way to a page. -/
def breadcrumbFile : Text := file [
  "<script setup lang=\"ts\">",
  "import \x7b computed \x7d from 'vue'",
  "import \x7b useData \x7d from 'vitepress'",
  "",
  "const \x7b frontmatter, page \x7d = useData()",
  "",
  "const libraryUrl = computed(() => \x7b",
  "  const parts = page.value.relativePath.split('/')",
  "  return parts.length > 2 ? \x60/$\x7bparts[0]\x7d/$\x7bparts[1]\x7d/\x60 : null",
  "\x7d)",
  "</script>",
  "",
  "<template>",
  "  <nav class=\"api-breadcrumb\">",
  "    <a href=\"/api/\">API</a>",
  "    <template v-if=\"frontmatter.library\">",
  "      <span class=\"sep\">/</span>",
  "      <a v-if=\"libraryUrl\" :href=\"libraryUrl\">\x7b\x7b frontmatter.library \x7d\x7d</a>",
  "    </template>",
  "    <template v-if=\"frontmatter.category\">",
  "      <span class=\"sep\">/</span>",
  "      <span>\x7b\x7b frontmatter.category \x7d\x7d</span>",
  "    </template>",
  "  </nav>",
  "</template>",
  "",
  "<style scoped>",
  ".api-breadcrumb \x7b",
  "  font-size: 13px;",
  "  color: var(--vp-c-text-2);",
  "  margin-bottom: 8px;",
  "\x7d",
  "",
  ".api-breadcrumb .sep \x7b",
  "  margin: 0 6px;",
  "\x7d",
  "</style>"]

/-- Where the entry of the theme stands. -/
def themePath : Text := ".vitepress/theme/index.ts"

/-- The line that the entry of the theme must have. -/
def stylesImport : Text := "import '../generated/api-styles.css'"

/-- The files with their places. -/
def files : List (Text × Text) :=
  [("package.json", packageFile), (".vitepress/config.ts", configFile), ("index.md", homeFile),
    ("guide/index.md", guideFile), (".gitignore", ignoreFile), (themePath, themeFile),
    (".vitepress/theme/custom.css", styleFile),
    (".vitepress/theme/components/ApiBreadcrumb.vue", breadcrumbFile)]

/-- A place to be filled in. -/
def place (name : Text) : Text := "\x7b\x7b" ++ name ++ "\x7d\x7d"

/-- Fills places in, one after the other. -/
def fill (values : List (Text × Text)) (template : Text) : Text :=
  values.foldl (fun t v => Text.replace v.1 v.2 t) template

/-- Drops what an address of a repository says about a branch. -/
def dropBranch : Text.Rule := fun t => do
  let rest ← Text.after? "/tree/" t
  let rest' := rest.dropWhile (· != '/')
  let left := rest'.dropWhile (· != '\n')
  if rest.head?.all (· == '/') || !Text.isAtEnd left then none else some (Text.upTo t left [])

/-- A literal text of the site's configuration, in single quotation marks. -/
def literal (t : Text) : Text :=
  "'" ++ Text.replace "'" "\\'" (Text.replace "\\" "\\\\" t) ++ "'"

/-- The links to a repository for the head of the site; without an address there are none. -/
def repositoryLinks (url : Text) : Text :=
  if url.isEmpty then "[]"
  else
    let url := Text.substituteFirst dropBranch url
    let isGitlab := Text.occursIn "gitlab.com" url && !Text.occursIn "github.com" url
    let icon : Text := if isGitlab then "gitlab" else "github"
    "[\x7b icon: '" ++ icon ++ "', link: " ++ literal url ++ " \x7d]"

/-- A character that the name of a package may have, or a hyphen instead. -/
def packageChar (c : Char) : Char := if Text.isAsciiWord c || c == '-' then c else '-'

/-- What is filled in. -/
def values (packageName repositoryUrl : Text) : List (Text × Text) :=
  let name := packageName.map packageChar
  [(place "packageName", name), (place "npmPackageName", Text.lower name),
    (place "socialLinks", repositoryLinks repositoryUrl)]

end ApiSite.Scaffold
