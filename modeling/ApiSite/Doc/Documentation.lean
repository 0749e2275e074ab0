import ApiSite.Doc.Resolution
import ApiSite.Markup.Document

/-!
The documentation of entities as Markdown that is safe to show, with its references resolved.
-/

set_option autoImplicit false

namespace ApiSite.Doc

open Model Markup

/-- What is done with documentation once it is Markdown: prepared markup is put in, links are
brought up to date, and the whole is made safe. -/
def finish (site : Site) (text : Text) : Text × List Sanitize.Removal :=
  let text := Text.substitute (insertFragment site.model.fragment) text
  let text := Text.substitute completeEmbedderLink (convertLinks text)
  Sanitize.sanitize site.frameHosts text

/-- The documentation text of an entity, parsed. -/
def parse (site : Site) (e : Entity) : Document :=
  Document.parse (some fun name => (elementFor site.location e name).toOption.join)
    (resolveDirectives e.info.documentation)

/-- The documentation of an entity. -/
def render (site : Site) (e : Entity) : Rendering Text :=
  if e.info.documentation.isEmpty then pure []
  else do
    let document := parse site e
    for name in document.names do
      recordReference site.location e name
    if !document.isSound then throw .shape
    match Writer.write site.style document.root document.rawHtml with
    | .error (.listStart _) => throw .listStart
    | .error .valueless => throw .shape
    | .ok text =>
      let (text, removals) := finish site text
      modify (Progress.remove removals)
      return text

/-- Documentation that belongs to no entity: its references stay as they are. -/
def renderRaw (text : Text) : Text := convertLinks (resolveDirectives text)

/-- What stands before the first blank line. -/
def firstParagraph : Text → Text
  | [] => []
  | c :: t =>
    if c = '\n' && (t.takeWhile Text.isBlank).contains '\n' then []
    else c :: firstParagraph t

/-- The first paragraph of an entity's documentation on one line. -/
def renderLine (site : Site) (e : Entity) : Rendering Text := do
  let text ← render site e
  return Text.replace "\n" " " (Text.strip (firstParagraph text))

end ApiSite.Doc
