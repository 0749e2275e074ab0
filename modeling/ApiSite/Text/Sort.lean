import ApiSite.Text.LetterCase

/-!
Sorting by text keys. Items with one key stay in their order.
-/

set_option autoImplicit false

namespace ApiSite.Text

/-- Sorts by a key, by code point. -/
def sortBy {α : Type} (key : α → Text) (l : List α) : List α :=
  l.mergeSort fun a b => le (key a) (key b)

/-- Sorts by a name whose letter case counts for nothing. -/
def sortByName {α : Type} (name : α → Text) (l : List α) : List α :=
  (sortBy Prod.fst (l.map fun a => (lower (name a), a))).map Prod.snd

end ApiSite.Text
