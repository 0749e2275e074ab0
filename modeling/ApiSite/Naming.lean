import ApiSite.Text.Blank
import ApiSite.Text.WordChar
import ApiSite.Text.LetterCase
import ApiSite.Text.Decomposition

/-!
Names made safe for where they are used: slugs of headings, file names, anchors, and anchors that
are unique on their page.
-/

set_option autoImplicit false

namespace ApiSite.Naming

/-- Replaces each run of characters of a class by one hyphen. `inRun` says that such a run has just
been replaced. -/
def hyphenateFrom (p : Char → Bool) : (inRun : Bool) → Text → Text
  | _, [] => []
  | inRun, c :: t =>
    if p c then (if inRun then hyphenateFrom p true t else '-' :: hyphenateFrom p true t)
    else c :: hyphenateFrom p false t

/-- Replaces each run of hyphens and of characters of a class by one hyphen. -/
def hyphenate (p : Char → Bool) (t : Text) : Text :=
  hyphenateFrom (fun c => c == '-' || p c) false t

/-- A text without hyphens at its ends. -/
def trimHyphens (t : Text) : Text := Text.trim (· == '-') t

/-- White space and punctuation, which a slug replaces by hyphens. -/
def isSlugSeparator (c : Char) : Bool :=
  Text.isBlank c ||
    ("~\x60!@#$%^&*()-_+=[]\x7b\x7d|;:\"'“”‘’<>,.?/" : Text).contains c

/-- The slug of a heading: without accents, white space and punctuation as hyphens, in lower case,
an underscore before a leading digit. -/
def headingSlug (t : Text) : Text :=
  let t := (Text.decompose t).filter fun c => !(0x300 ≤ c.toNat && c.toNat ≤ 0x36f)
  let t := trimHyphens (hyphenate isSlugSeparator t)
  let t := match t with
    | c :: _ => if Text.isAnyDigit c then '_' :: t else t
    | [] => t
  let t := Text.lower t
  if t.isEmpty then "section" else t

/-- A name up to its type arguments. -/
def withoutTypeArguments (name : Text) : Text := name.takeWhile (· != '<')

/-- Characters that file systems do not allow in names, or give a meaning. -/
def isUnsafeInFile (c : Char) : Bool :=
  ([':', '<', '>', '|', '?', '*', '"', '/', '\\'] : List Char).contains c

/-- A file name for a name: without type arguments, hyphens for what files cannot have. -/
def fileName (name : Text) : Text :=
  trimHyphens (hyphenate isUnsafeInFile (withoutTypeArguments name))

/-- An anchor for a text: hyphens for all but ASCII letters and digits, in lower case. -/
def anchor (t : Text) : Text :=
  Text.lower (trimHyphens (hyphenate (fun c => !Text.isAsciiAlnum c) t))

/-- The anchor that the title of a page takes: hyphens for all but small ASCII letters and
digits. -/
def titleAnchor (title : Text) : Text :=
  trimHyphens (hyphenate (fun c => !(c.isLower || c.isDigit)) (Text.lower title))

/-- An anchor with a number behind it. -/
def numbered (anchor : Text) (n : Nat) : Text := anchor ++ '-' :: Text.ofNat n

/-- The first number from `n` on that makes the anchor a new one; `fuel` bounds the numbers that can
be taken. -/
def firstFree (used : List Text) (anchor : Text) : Nat → Nat → Nat
  | 0, n => n
  | fuel + 1, n =>
    if used.contains (numbered anchor n) then firstFree used anchor fuel (n + 1) else n

/-- The anchor itself if it is new, and otherwise its first new numbering from two on, together with
the anchors that are used from then on. -/
def uniqueAnchor (anchor : Text) (used : List Text) : Text × List Text :=
  let result :=
    if used.contains anchor then numbered anchor (firstFree used anchor used.length 2) else anchor
  (result, used ++ [result])

end ApiSite.Naming
