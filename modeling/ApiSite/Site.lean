import ApiSite.Location.Assignment
import ApiSite.Markup.Writer

/-!
A site: a model, where its entities are, and how its pages are written.
-/

set_option autoImplicit false

namespace ApiSite

/-- What pages are made from. -/
structure Site where
  model : Model
  location : Location
  style : Markup.Writer.Style
  /-- Hosts beyond the well-known ones whose frames are shown. -/
  frameHosts : List Text
  /-- The width at which signatures are wrapped. -/
  wrapWidth : Nat
  /-- The number of members above which a page's outline is shortened, if it is set. -/
  outlineThreshold : Option Value

namespace Site

/-- A site whose entities have their places, with the settings for its documentation. -/
def of (settings : Settings) (model : Model) (location : Location) :
    Except Settings.Error Site := do
  let docs ← settings.docRules
  let width ← settings.wrapWidth
  return ⟨model, location, Markup.Writer.Style.of docs.safeTags docs.language, docs.frameHosts,
    width, settings.outlineThreshold.toOption⟩

/-- The entity that a type refers to. -/
def targetOf (site : Site) (t : Model.TypeRef) : Option Entity := t.target >>= site.model.entity?

end Site

end ApiSite
