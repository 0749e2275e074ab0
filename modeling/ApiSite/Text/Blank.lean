import ApiSite.Text.Basic

/-!
White space: the characters that separate words and are trimmed from the ends of a text.
-/

set_option autoImplicit false

namespace ApiSite.Text

/-- White space in any script: tabs, line and page breaks, the four information separators, and
the spaces of every width. -/
def isBlank (c : Char) : Bool :=
  let n := c.toNat
  (9 ≤ n && n ≤ 13) || (28 ≤ n && n ≤ 32) || n == 0x85 || n == 0xa0 || n == 0x1680 ||
    (0x2000 ≤ n && n ≤ 0x200a) || n == 0x2028 || n == 0x2029 || n == 0x202f || n == 0x205f ||
    n == 0x3000

/-- The text without white space at its ends. -/
def strip (t : Text) : Text := trim isBlank t

/-- The text without white space in front. -/
def stripStart (t : Text) : Text := trimStart isBlank t

/-- The text without white space at its end. -/
def stripEnd (t : Text) : Text := trimEnd isBlank t

/-- Whether a text holds white space only. -/
def isBlankText (t : Text) : Bool := t.all isBlank

/-- Reads words off a text, the current one in reverse. -/
def wordsFrom : Text → Text → List Text
  | [], [] => []
  | word@(_ :: _), [] => [word.reverse]
  | [], c :: t => if isBlank c then wordsFrom [] t else wordsFrom [c] t
  | word@(_ :: _), c :: t =>
    if isBlank c then word.reverse :: wordsFrom [] t else wordsFrom (c :: word) t

/-- The words of a text: its longest runs free of white space. -/
def words (t : Text) : List Text := wordsFrom [] t

end ApiSite.Text
