import ApiSite.Text.Basic

/-!
Replacing in a text by a rule that looks at what stands in front of it: wherever the rule applies, a
number of characters gives way to a replacement, from left to right and without overlaps.
-/

set_option autoImplicit false

namespace ApiSite.Text

/-- A rule says how many characters in front of a text are replaced, and by what. -/
abbrev Rule := Text → Option (Nat × Text)

/-- Replaces in a text wherever a rule applies. The counter says how many characters are still to be
passed over. -/
def substituteFrom (rule : Rule) : Nat → Text → Text
  | _, [] => []
  | k + 1, _ :: t => substituteFrom rule k t
  | 0, c :: t =>
    match rule (c :: t) with
    | some (size, replacement) => replacement ++ substituteFrom rule (size - 1) t
    | none => c :: substituteFrom rule 0 t

/-- Replaces in a text, from its start, wherever a rule applies. -/
def substitute (rule : Rule) (t : Text) : Text := substituteFrom rule 0 t

/-- Replaces in a text where a rule first applies. -/
def substituteFirst (rule : Rule) : Text → Text
  | [] => []
  | c :: t =>
    match rule (c :: t) with
    | some (size, replacement) => replacement ++ (c :: t).drop size
    | none => c :: substituteFirst rule t

/-- Whether nothing but perhaps one line feed is left. -/
def isAtEnd : Text → Bool
  | [] => true
  | ['\n'] => true
  | _ => false

/-- What a rule replaces, given what is left behind it. -/
def upTo (t rest replacement : Text) : Nat × Text := (t.length - rest.length, replacement)

end ApiSite.Text
