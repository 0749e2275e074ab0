import ApiSite.Markup.SafeTags
import ApiSite.Data.Merge
import ApiSite.Data.Json
import ApiSite.Data.Sha256
import ApiSite.Data.Source
import ApiSite.Pattern.Match
import ApiSite.Yaml.Document

/-!
The settings of a project: what its file says laid over the defaults, checked once before anything
is rendered, and then read part by part where it is needed.
-/

set_option autoImplicit false

namespace ApiSite

/-- Settings as a mapping of sections. -/
structure Settings where
  entries : List (Value × Value)
  deriving Inhabited

namespace Settings

/-- Why settings cannot be used. -/
inductive Error where
  /-- There is no file of settings. -/
  | missing (path : Text)
  /-- The file is no text in UTF-8. -/
  | encoding
  /-- The file is not well formed. -/
  | malformed (path : Text)
  /-- The file names a value that does not exist. -/
  | impossible
  /-- The file holds something other than sections. -/
  | noMapping (path : Text)
  /-- A pattern for internal libraries breaks the rules of patterns. -/
  | pattern (p : Text)
  /-- A prefix of duplicate libraries is not given with its replacement. -/
  | duplicatePrefix (entry : Value)
  /-- The width at which signatures are wrapped is no positive number. -/
  | wrapWidth (value : Value)
  /-- A section or a setting has a shape that makes no sense there. -/
  | shape

/-- What is said about an error. -/
def Error.message : Error → Text
  | missing path => "Config file not found: " ++ path
  | encoding => "Config file is not UTF-8"
  | malformed path => "Invalid YAML in config file " ++ path
  | impossible => "Config file holds an impossible value"
  | noMapping path => "Config file " ++ path ++ " must contain a mapping at the top level"
  | pattern p => "Invalid pattern in libraries.internal_patterns: " ++ Value.quotedText p
  | duplicatePrefix entry =>
    "Each libraries.duplicate_prefixes entry needs 'internal' and 'canonical' keys, got: " ++
      entry.quoted
  | wrapWidth value =>
    "pages.signature_wrap_width must be a positive integer, got: " ++ value.quoted
  | shape => "A setting has an unexpected shape"

/-- A mapping with text keys. -/
def section_ (entries : List (Text × Value)) : Value :=
  .mapping (entries.map fun e => (.text e.1, e.2))

/-- A list of texts. -/
def texts (l : List String) : Value := .list (l.map fun s => .text s.toList)

/-- A prefix of libraries that duplicate others. -/
def duplicate (inner canonical : Text) : Value :=
  section_ [("internal", .text inner), ("canonical", .text canonical)]

/-- The settings of a project that says nothing. -/
def default : Settings := ⟨[
  (.text "sanitizer", section_ [("allowed_iframe_hosts", .list [])]),
  (.text "html", section_ [("safe_tags", .list (Markup.defaultSafeTags.map .text))]),
  (.text "libraries", section_ [
    ("internal_names", texts ["rti", "vmservice_io", "metadata", "nativewrappers", "html_common",
      "dart2js_runtime_metrics"]),
    ("internal_patterns", texts ["^_", "\\._"]),
    ("dotted_prefixes", texts ["dart."]),
    ("duplicate_prefixes", .list [duplicate "dart." "dart:", duplicate "dart.dom." "dart:"])]),
  (.text "pages", section_ [
    ("outline_member_threshold", .int 50),
    ("signature_wrap_width", .int 80),
    ("default_code_language", .text "dart")]),
  (.text "output", section_ [
    ("managed_dirs", texts ["api", "topics", ".vitepress/generated"]),
    ("repository_url", .text [])])]⟩

/-- Settings with what a project says laid over them. -/
def overlay (s : Settings) (own : List (Value × Value)) : Settings := ⟨Value.merge s.entries own⟩

/-- A section, if it is one. -/
def part? (s : Settings) (name : Text) : Except Error (List (Value × Value)) :=
  match Value.find? (.text name) s.entries with
  | some (.mapping m) => .ok m
  | _ => .error .shape

/-- A setting of a section, nothing where it is left out. -/
def given (entries : List (Value × Value)) (name : Text) : Value :=
  (Value.find? (.text name) entries).getD .null

/-- A setting that may not be left out. -/
def required (entries : List (Value × Value)) (name : Text) : Except Error Value :=
  match Value.find? (.text name) entries with
  | some v => .ok v
  | none => .error .shape

/-- What a setting enumerates. -/
def itemsOf (v : Value) : Except Error (List Value) := v.items?.elim (.error .shape) .ok

/-- The text of a value that is one. -/
def textOf : Value → Except Error Text
  | .text t => .ok t
  | _ => .error .shape

/-- Reads a pattern for names of libraries. -/
def patternOf (v : Value) : Except Error Pattern :=
  match v with
  | .text t =>
    match Pattern.ofText? t with
    | some p => .ok p
    | none => .error (.pattern t)
  | _ => .error .shape

/-- A prefix of libraries that duplicate others, and what stands for it in the names of these. -/
def duplicateOf (v : Value) : Except Error (Text × Text) :=
  match v.get? "internal", v.get? "canonical" with
  | some inner, some canonical => .ok (inner.shown, canonical.shown)
  | _, _ => .error (.duplicatePrefix v)

/-- How libraries are told apart. -/
structure LibraryRules where
  /-- The names of libraries that are not shown. -/
  internalNames : List Text
  internalPatterns : List Pattern
  /-- Prefixes of names whose dots are hyphens in directory names. -/
  dottedPrefixes : List Text
  /-- Prefixes of libraries that duplicate others, with what replaces them. -/
  duplicatePrefixes : List (Text × Text)

/-- The rules for libraries. Names that are no texts are those of no library. -/
def libraryRules (s : Settings) : Except Error LibraryRules := do
  let libraries ← part? s "libraries"
  let names ← itemsOf (given libraries "internal_names")
  if names.any fun v => !v.isKey then throw .shape
  let patterns ← (← itemsOf (given libraries "internal_patterns")).mapM patternOf
  let dotted ← (← itemsOf (given libraries "dotted_prefixes")).mapM textOf
  let duplicates ← (← itemsOf (given libraries "duplicate_prefixes")).mapM duplicateOf
  return ⟨names.filterMap fun v => match v with
    | .text t => some t
    | _ => none, patterns, dotted, duplicates⟩

/-- How documentation is written. -/
structure DocRules where
  safeTags : List Text
  language : Text
  /-- Hosts beyond the well-known ones whose frames are shown. -/
  frameHosts : List Text

/-- The rules for documentation. -/
def docRules (s : Settings) : Except Error DocRules := do
  let tags ← required (← part? s "html") "safe_tags"
  let language ← required (← part? s "pages") "default_code_language"
  let hosts := given (← part? s "sanitizer") "allowed_iframe_hosts"
  let safeTags ← match tags with
    | .null => pure Markup.defaultSafeTags
    | v => (← enumerated v).mapM textOf
  let frameHosts ← (← itemsOf hosts).mapM textOf
  return ⟨safeTags, language.shown, frameHosts⟩
where
  enumerated (v : Value) : Except Error (List Value) :=
    match v with
    | .text [] | .list [] | .mapping [] => .ok []
    | v => if v.isTrue then itemsOf v else .error .shape

/-- The width at which signatures are wrapped. -/
def wrapWidthOf (v : Value) : Except Error Nat :=
  match v with
  | .int (.ofNat (n + 1)) => .ok (n + 1)
  | .bool true => .ok 1
  | v => .error (.wrapWidth v)

/-- The width at which signatures are wrapped. -/
def wrapWidth (s : Settings) : Except Error Nat := do
  wrapWidthOf (given (← part? s "pages") "signature_wrap_width")

/-- The number of members from which a page's outline is shortened; a setting, which is looked at
only when a page with members is rendered. -/
def outlineThreshold (s : Settings) : Except Error Value := do
  required (← part? s "pages") "outline_member_threshold"

/-- Whether a number of members is above a threshold. -/
def isAbove (count : Nat) (threshold : Value) : Except Error Bool :=
  match threshold with
  | .real .nan => .ok false
  | .real (.infinite negative) => .ok negative
  | v =>
    match v.number? with
    | some (n, d) => .ok (n < (count : Int) * d)
    | none => .error .shape

/-- A setting for the output that may not be left out. -/
def output (s : Settings) (name : Text) : Except Error Value := do
  required (← part? s "output") name

/-- The managed directories of the output; what is listed has to be texts. -/
def managedDirs (v : Value) : Except Error (List Text) :=
  match v with
  | .list l => l.mapM textOf
  | .text t => .ok (t.map fun c => [c])
  | .mapping m => m.mapM fun e => textOf e.1
  | _ => .error .shape

/-- Settings with the address of the repository replaced. -/
def withRepository (s : Settings) (url : Text) : Except Error Settings := do
  let output := Value.assign (.text "repository_url") (.text url) (← part? s "output")
  return ⟨Value.assign (.text "output") (.mapping output) s.entries⟩

/-- Checks settings before they are used: patterns first, then prefixes, then the width. -/
def validate (s : Settings) : Except Error Unit := do
  let libraries ← part? s "libraries"
  let _ ← (← itemsOf (given libraries "internal_patterns")).mapM patternOf
  let _ ← (← itemsOf (given libraries "duplicate_prefixes")).mapM duplicateOf
  let _ ← wrapWidth s

/-- The settings that a file says, laid over the defaults and checked. -/
def ofValue (path : Text) (v : Value) : Except Error Settings :=
  if !v.isTrue then (validate default).map fun _ => default
  else
    match v with
    | .mapping own =>
      let s := default.overlay own
      (validate s).map fun _ => s
    | _ => .error (.noMapping path)

/-- Reads the text of a file of settings. -/
def ofText (path text : Text) : Except Error Settings :=
  match Yaml.read text with
  | .ok v => ofValue path v
  | .error .malformed => .error (.malformed path)
  | .error .impossible => .error .impossible
  | .error .unknownWord => .error .shape

/-- Reads a file of settings. -/
def ofSource (path : Text) : Source → Except Error Settings
  | .missing => .error (.missing path)
  | .binary => .error .encoding
  | .text t => ofText path t

/-- The settings as one value. -/
def toValue (s : Settings) : Value := .mapping s.entries

/-- A digest of a value that does not depend on the order of keys; `none` where the keys of a
mapping have no order. -/
def digest? (v : Value) : Option Text := (Json.canonical? v).map Sha256.ofAscii

end Settings

end ApiSite
