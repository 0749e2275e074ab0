import ApiSite.Sanitize.Construct

/-!
Markdown made safe to show: markup that can run code is removed, and braces that a template would
evaluate are escaped.
-/

set_option autoImplicit false

namespace ApiSite.Sanitize

/-- Elements that embed other content. -/
def embeddingTags : List Text := Text.ofStrings ["embed", "object", "applet", "form", "svg"]

/-- The hosts whose frames are shown. -/
def allowedHosts (more : List Text) : List Text := knownHosts ++ more.map Text.lower

/-- The rules, in the order in which they are applied. -/
def rules (moreHosts : List Text) : List Rule :=
  [element "script", closedTag "script", element "style"] ++
    embeddingTags.flatMap (fun name => [element name, closedTag name]) ++
    [soleTag "base", soleTag "meta", soleTag "link", frame (allowedHosts moreHosts),
      address "javascript:" .scriptAddress, address "data:" .dataAddress, eventHandler]

/-- A text without markup that can run code, and what has been removed from it. -/
def clean (moreHosts : List Text) (t : Text) : Text × List Removal :=
  applyRules (rules moreHosts) (t.filter (· != '\x00'))

/-- A text in which no pair of braces is evaluated as a template. -/
def escapeBraces (t : Text) : Text :=
  Text.replace "\x7d\x7d" "\\\x7d\\\x7d" (Text.replace "\x7b\x7b" "\\\x7b\\\x7b" t)

/-- A text made safe to show, and what has been removed from it. -/
def sanitize (moreHosts : List Text) (t : Text) : Text × List Removal :=
  let (t, removals) := clean moreHosts t
  (escapeBraces t, removals)

end ApiSite.Sanitize
