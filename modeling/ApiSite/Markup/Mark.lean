import ApiSite.Text.WordChar
import ApiSite.Text.Basic

/-!
Marks: short codes between two control characters that stand for something set aside while a text
is read. An escaped character is marked by its code point, a piece of raw markup, a fenced block or
a piece of inline markup by its number in order of appearance. The two control characters are
removed from every source, so a mark is never confused with what an author wrote.
-/

set_option autoImplicit false

namespace ApiSite.Markup.Mark

open Text (ofNat)

/-- Opens a mark. -/
abbrev opening : Char := '\x02'

/-- Closes a mark. -/
abbrev closing : Char := '\x03'

/-- The mark of an escaped character. -/
def escaped (c : Char) : Text := opening :: ofNat c.toNat ++ [closing]

/-- The mark of a piece of raw markup. -/
def rawHtml (n : Nat) : Text := opening :: "wzxhzdk:" ++ ofNat n ++ [closing]

/-- The mark of a fenced block. -/
def fence (n : Nat) : Text := opening :: "vitedocfence:" ++ ofNat n ++ [closing]

/-- Numbers of inline markup have at least four digits. -/
def fourDigits (n : Nat) : Text :=
  let digits := ofNat n
  List.replicate (4 - digits.length) '0' ++ digits

/-- The mark of a piece of inline markup. -/
def inlineMarkup (n : Nat) : Text := opening :: "klzzwxh:" ++ fourDigits n ++ [closing]

/-- The mark of an ampersand that is to reach the page as it is. -/
def ampersand : Text := opening :: "amp" ++ [closing]

/-- The digits that the number of a mark may be written in: those of any script where there are no
letters before it, and else the ASCII ones. -/
def isDigit (key : Text) (c : Char) : Bool := if key.isEmpty then Text.isDecimal c else c.isDigit

/-- A mark at the head of a text, with the letters `key` before its number: the number, how many
characters the mark takes, and what follows. -/
def read? (key t : Text) : Option (Nat × Nat × Text) :=
  match Text.after? (opening :: key) t with
  | none => none
  | some rest =>
    let digits := rest.takeWhile (isDigit key)
    match Text.decimalNumber? digits, rest.drop digits.length with
    | some n, c :: after =>
      if c = closing then some (n, key.length + digits.length + 2, after) else none
    | _, _ => none

/-- Replaces every mark with the letters `key` by the text that `value` gives for its number. The
counter passes over the characters of a mark that was read. -/
def substituteFrom (key : Text) (value : Nat → Text) : Nat → Text → Text
  | _, [] => []
  | k + 1, _ :: t => substituteFrom key value k t
  | 0, c :: t =>
    match read? key (c :: t) with
    | some (n, size, _) => value n ++ substituteFrom key value (size - 1) t
    | none => c :: substituteFrom key value 0 t

/-- Replaces every mark with the letters `key` by the text of its number. -/
def substitute (key : Text) (value : Nat → Text) (t : Text) : Text := substituteFrom key value 0 t

/-- Turns the marks of escaped characters back into these characters. -/
def restoreEscapes (t : Text) : Text := substitute [] (fun n => [Char.ofNat n]) t

/-- Turns the marks of escaped characters back into a backslash and the character. -/
def restoreBackslashes (t : Text) : Text := substitute [] (fun n => ['\\', Char.ofNat n]) t

end ApiSite.Markup.Mark
