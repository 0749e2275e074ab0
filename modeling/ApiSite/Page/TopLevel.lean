import ApiSite.Doc.Documentation
import ApiSite.Page.Part
import ApiSite.Page.Container

/-!
The page of a function, a variable or a type definition.
-/

set_option autoImplicit false

namespace ApiSite.Page

open Model Doc

/-- What the page of a top-level element calls it. -/
def topLevelLabel (t : TopLevel) : Text :=
  if t.kind == "function" then "function"
  else if t.kind == "typedef" then "typedef"
  else if t.isConst then "constant"
  else "property"

/-- The title of the page of a top-level element: only what can be generic shows it. -/
def topLevelTitle (e : Entity) : Text :=
  if e.kind == "function" || e.kind == "typedef" then Signature.plainName e else e.name

/-- The signature of a top-level element. -/
def topLevelSignature (site : Site) (e : Entity) (width : Int) : Text :=
  if e.kind == "function" then Signature.callable site e width
  else if e.kind == "typedef" then Signature.typeDefinition site e width
  else Signature.variableOf site e

/-- The page of a top-level element. -/
def topLevel (site : Site) (e : Entity) (t : TopLevel) : Rendering Text := do
  let title := topLevelTitle e
  let label := topLevelLabel t
  let library := libraryName e
  let head := metadata (title ++ " " ++ label)
    ("API documentation for the " ++ title ++ " " ++ label ++ " from " ++ library)
    (.shown false) (overviewTitle? e) (some library)
  let isTypedef := t.kind == "typedef"
  let doc ← Doc.render site e
  let code ← implementation t.sourceCode
  return join (head ++ breadcrumb ++ titleHeading title e.info.isDeprecated ++
    signature (topLevelSignature site e site.wrapWidth) ++ deprecationOf e ++
    (if isTypedef then [] else annotations e) ++ paragraph doc ++
    (if isTypedef then [] else sourceLink t.sourceUrl) ++ code)

end ApiSite.Page
