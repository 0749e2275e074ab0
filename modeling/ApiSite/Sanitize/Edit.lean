import ApiSite.Text.Blank

/-!
Rules that look at the front of a text and say what is to be done with the construct that stands
there, and their application to a whole text from left to right. What is removed is accounted for,
construct by construct.
-/

set_option autoImplicit false

namespace ApiSite.Sanitize

/-- What has been removed from a text. -/
inductive Removal where
  /-- An element with its content, or a tag that stands alone. -/
  | element (name : Text)
  /-- A tag that closes itself. -/
  | closedTag (name : Text)
  /-- An attribute that runs code on an event. -/
  | eventHandler
  /-- An address that runs code. -/
  | scriptAddress
  /-- An address that is itself what it leads to. -/
  | dataAddress
  | frameWithoutSource
  /-- A frame whose source is no address of the web. -/
  | frameSource (source : Text)
  /-- A frame from a host that is not allowed. -/
  | frameHost (host : Text)
  deriving DecidableEq, Repr

/-- What is removed, in words. -/
def Removal.description : Removal → Text
  | element name => "<" ++ name ++ "> tag"
  | closedTag name => "<" ++ name ++ "/> tag"
  | eventHandler => "inline event handler tag"
  | scriptAddress => "javascript: URL"
  | dataAddress => "data: URI"
  | frameWithoutSource => "<iframe> without src attribute"
  | frameSource source => "<iframe> with disallowed src: " ++ source
  | frameHost host =>
    "<iframe> with host \"" ++ host ++ "\". To allow it, add \"" ++ host ++
      "\" to sanitizer.allowed_iframe_hosts in the configuration file."

/-- The warning about a removal. -/
def Removal.message (r : Removal) : Text := "sanitize_html: removed " ++ r.description

/-- What is done with the first `size` characters of a text. -/
structure Edit where
  size : Nat
  replacement : Text
  removal : Option Removal

/-- Finds the construct that stands in front of a text. -/
abbrev Rule := Text → Option Edit

/-- Applies a rule wherever it finds a construct, left to right and not overlapping. The counter
says how many characters of a construct are still to be passed over. -/
def applyFrom (rule : Rule) : Nat → Text → Text × List Removal
  | _, [] => ([], [])
  | k + 1, _ :: t => applyFrom rule k t
  | 0, c :: t =>
    match rule (c :: t) with
    | some e =>
      let (out, removals) := applyFrom rule (e.size - 1) t
      (e.replacement ++ out, e.removal.toList ++ removals)
    | none =>
      let (out, removals) := applyFrom rule 0 t
      (c :: out, removals)

/-- A text as a rule leaves it, with what has been removed. -/
def applyRule (rule : Rule) (t : Text) : Text × List Removal := applyFrom rule 0 t

/-- Applies rules one after the other. -/
def applyRules : List Rule → Text → Text × List Removal
  | [], t => (t, [])
  | rule :: rules, t =>
    let (t, first) := applyRule rule t
    let (t, others) := applyRules rules t
    (t, first ++ others)

end ApiSite.Sanitize
