import ApiSite.Text.Entity
import ApiSite.Naming
import ApiSite.Markup.Serialize
import ApiSite.Markup.Mark

/-!
Ids of headings. A heading without an id gets the slug of its plain text, numbered where the
document has that id already.
-/

set_option autoImplicit false

namespace ApiSite.Markup.HeadingIds

mutual

/-- The ids that a tree gives. -/
def idsOf : Element → List Text
  | .mk _ attrs _ children _ => (Element.lookup attrs "id").toList ++ idsOfAll children

def idsOfAll : List Element → List Text
  | [] => []
  | e :: rest => idsOf e ++ idsOfAll rest

end

/-- The name and the number of an id that ends in an underscore and digits. -/
def numbered? (id : Text) : Option (Text × Nat) :=
  let reversed := id.reverse
  let digits := (reversed.takeWhile Char.isDigit).reverse
  match Text.toNat? digits, reversed.dropWhile Char.isDigit with
  | some n, '_' :: name => some (name.reverse, n)
  | _, _ => none

/-- The id to try after one that is taken: the number at its end goes up. -/
def successor (id : Text) : Text :=
  match numbered? id with
  | some (name, n) => name ++ '_' :: Text.ofNat (n + 1)
  | none => id ++ "_1"

/-- The first id from `id` on that is not used; `fuel` bounds the steps. -/
def firstFree (used : List Text) : Nat → Text → Text
  | 0, id => id
  | fuel + 1, id =>
    if used.contains id || id.isEmpty then firstFree used fuel (successor id) else id

/-- Removes every piece that starts with `opening` and ends with the next `closing`; `fuel` bounds
their number. -/
def removeEnclosed (opening closing : Text) : Nat → Text → Text
  | 0, t => t
  | fuel + 1, t =>
    match Text.cut? opening t with
    | none => t
    | some (before, rest) =>
      match Text.cut? closing (opening ++ rest) with
      | none => t
      | some (_, after) => removeEnclosed opening closing fuel (before ++ after)

/-- A text without comments and tags, single spaces between its words. -/
def withoutTags (t : Text) : Text :=
  let t := removeEnclosed "<!--" "-->" t.length t
  let t := removeEnclosed "<" ">" t.length t
  Text.join " " (Text.words t)

/-- Puts raw markup in the place of its marks; `fuel` bounds the nesting. -/
def restoreRaw (rawHtml : List Text) : Nat → Text → Text
  | 0, t => t
  | fuel + 1, t =>
    Mark.substitute "wzxhzdk:" (fun n =>
      match rawHtml[n]? with
      | some raw => restoreRaw rawHtml fuel raw
      | none => Mark.rawHtml n) t

/-- What stands between the first and the last tag of a markup text. -/
def betweenTags (t : Text) : Text :=
  let inner := (t.dropWhile (· != '>')).drop 1
  ((inner.reverse.dropWhile (· != '<')).drop 1).reverse

/-- The plain text of a heading. -/
def plainText (rawHtml : List Text) (heading : Element) : Text :=
  let inner := Text.strip (betweenTags (Mark.restoreEscapes heading.serialize))
  let inner := restoreRaw rawHtml (rawHtml.length + 1) inner
  withoutTags (Text.strip (Text.replace Mark.ampersand ['&'] inner))

/-- The attribute that would label a heading in a table of contents. -/
abbrev labelName : Text := "data-toc-label"

mutual

/-- Whether every heading of a tree that names an id or a label gives it a value. -/
def areGiven : Element → Bool
  | .mk tag attrs _ children _ =>
    !(headingTags.contains tag &&
        (Element.isValueless attrs "id" || Element.isValueless attrs labelName)) &&
      areGivenIn children

def areGivenIn : List Element → Bool
  | [] => true
  | e :: rest => areGiven e && areGivenIn rest

end

mutual

/-- Gives ids to the headings of a tree, and adds them to those in use. -/
def assign (rawHtml : List Text) : Element → List Text → Element × List Text
  | .mk tag attrs text children tail, used =>
    let (attrs, used) :=
      if headingTags.contains tag then
        let (attrs, used) :=
          if attrs.any fun a => a.1 == "id" then (attrs, used)
          else
            let plain := plainText rawHtml (.mk tag attrs text children tail)
            let slug := Naming.headingSlug (Text.decodeEntities plain)
            let id := firstFree used (used.length + 1) slug
            (Element.assign "id" (some id) attrs, id :: used)
        (attrs.filter fun a => a.1 != labelName, used)
      else (attrs, used)
    let (children, used) := assignAll rawHtml children used
    (.mk tag attrs text children tail, used)

def assignAll (rawHtml : List Text) : List Element → List Text → List Element × List Text
  | [], used => ([], used)
  | e :: rest, used =>
    let (e, used) := assign rawHtml e used
    let (rest, used) := assignAll rawHtml rest used
    (e :: rest, used)

end

/-- Gives an id to every heading of a document that has none. -/
def read (rawHtml : List Text) (root : Element) : Element := (assign rawHtml root (idsOf root)).1

end ApiSite.Markup.HeadingIds
