import ApiSite.Text.Substitute

/-!
Links of an older layout of pages, where every declaration had a file with the ending `.html`, put
into the present one.
-/

set_option autoImplicit false

namespace ApiSite.Doc

/-- A path without `../` in front, however often it stands there. -/
def dropUps : Text → Text
  | '.' :: '.' :: '/' :: t => dropUps t
  | t => t

/-- Replaces an ending; a line feed may stand behind it. -/
def replaceEnding (ending replacement : Text) : Text.Rule := fun t => do
  let rest ← Text.after? ending t
  if Text.isAtEnd rest then some (ending.length, replacement) else none

/-- Drops the last part of a path where it repeats the end of the part before it. -/
def mergeRepeated : Text.Rule := fun t => do
  let part := t.takeWhile (· != '/')
  let rest ← Text.after? ('/' :: part) (t.drop part.length)
  let rest := if Text.isAtEnd rest then rest else Text.dropStart "/" rest
  if !part.isEmpty && Text.isAtEnd rest then some (Text.upTo t rest (part ++ ['/'])) else none

/-- The parts of a path from a root on: empty parts and `.` say nothing, and `..` takes the part
before it back. The parts before are given last part first. -/
def resolveParts : List Text → List Text → List Text
  | before, [] => before.reverse
  | before, part :: rest =>
    if part.isEmpty || part == ['.'] then resolveParts before rest
    else if part == ['.', '.'] then resolveParts (before.drop 1) rest
    else resolveParts (part :: before) rest

/-- A path from a root in its shortest form. Exactly two slashes in front are kept. -/
def normalizePath (path : Text) : Text :=
  let slashes : Text :=
    if Text.startsWith "//" path && !Text.startsWith "///" path then "//" else "/"
  slashes ++ Text.join "/" (resolveParts [] (Text.splitOn '/' path))

/-- The address of a page of the older layout in the present one: `dart-core/List.html` is
`/api/dart-core/List`, and the page of a library is the directory of its pages. -/
def convertPath (path : Text) : Text :=
  let path := Text.substituteFirst (replaceEnding ".html" []) (dropUps path)
  let path := Text.substituteFirst (replaceEnding "-library" "/") path
  let path := Text.substituteFirst mergeRepeated path
  let path : Text := if Text.startsWith "/" path then path else "/api/" ++ path
  let plain := normalizePath path
  if Text.endsWith "/" path && !Text.endsWith "/" plain then plain ++ "/" else plain

/-- A link in front: its label and its target, neither of them empty, and what follows. -/
def link? : Text → Option (Text × Text × Text)
  | '[' :: t => do
    let label := t.takeWhile (· != ']')
    let rest ← Text.after? "](" (t.drop label.length)
    let target := rest.takeWhile (· != ')')
    match rest.drop target.length with
    | _ :: rest => if label.isEmpty || target.isEmpty then none else some (label, target, rest)
    | [] => none
  | _ => none

/-- A link in Markdown. -/
def linkText (label target : Text) : Text := "[" ++ label ++ "](" ++ target ++ ")"

/-- Whether an address leads to another site. -/
def isForeign (target : Text) : Bool :=
  Text.startsWith "http://" target || Text.startsWith "https://" target

/-- Converts a link to a page of the older layout. -/
def convertLink : Text.Rule := fun t => do
  let (label, target, rest) ← link? t
  if Text.endsWith ".html" target && target.length > 5 && !isForeign target then
    some (Text.upTo t rest (linkText label (convertPath target)))
  else none

/-- A text with its links to pages of the older layout converted. -/
def convertLinks (t : Text) : Text := Text.substitute convertLink t

/-- The site that holds the documentation of embedders. -/
def embedderSite : Text := "https://api.flutter.dev"

/-- Completes a link into the documentation of embedders. -/
def completeEmbedderLink : Text.Rule := fun t => do
  let (label, target, rest) ← link? t
  let inside ← (Text.after? "/javadoc/" target).or (Text.after? "/ios-embedder/" target)
  if inside.isEmpty then none
  else some (Text.upTo t rest (linkText label (embedderSite ++ target)))

/-- The text of a link without a bracket that could open a tag. -/
def escapeLabel (t : Text) : Text := Text.replace ">" "\\>" (Text.replace "<" "\\<" t)

end ApiSite.Doc
