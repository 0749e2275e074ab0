/-!
Texts as lists of characters, with the cuts, searches and replacements that the rest of the
library is written in. Everything here is structural recursion on the text, so each operation
unfolds by `simp` and computes in the kernel.
-/

set_option autoImplicit false

namespace ApiSite

/-- A text is the list of its characters. -/
abbrev Text := List Char

instance : Coe String Text := ⟨String.toList⟩

namespace Text

/-- The texts of a list of strings. -/
def ofStrings (l : List String) : List Text := l.map String.toList

/-- Whether `t` begins with `start`. -/
def startsWith (start t : Text) : Bool := start.isPrefixOf t

/-- Whether `t` ends with `ending`. -/
def endsWith (ending t : Text) : Bool := ending.isSuffixOf t

/-- What follows `start` in `t`, if `t` begins with it. -/
def after? : Text → Text → Option Text
  | [], t => some t
  | _ :: _, [] => none
  | c :: start, d :: t => if c = d then after? start t else none

/-- `t` without `start` in front, or `t` itself where it does not begin with it. -/
def dropStart (start t : Text) : Text := (after? start t).getD t

/-- `t` without `ending` at its end, or `t` itself where it does not end with it. -/
def dropEnding (ending t : Text) : Text :=
  if endsWith ending t then t.take (t.length - ending.length) else t

/-- Removes the longest final run of characters in a class. -/
def trimEnd (p : Char → Bool) (t : Text) : Text := (t.reverse.dropWhile p).reverse

/-- Removes the longest initial run of characters in a class. -/
def trimStart (p : Char → Bool) (t : Text) : Text := t.dropWhile p

/-- Removes the characters of a class from both ends. -/
def trim (p : Char → Bool) (t : Text) : Text := trimEnd p (trimStart p t)

/-- The pieces of a text between the occurrences of one character: one more than these. -/
def splitOn (sep : Char) : Text → List Text
  | [] => [[]]
  | c :: t =>
    match splitOn sep t with
    | [] => [[]]
    | piece :: rest => if c = sep then [] :: piece :: rest else (c :: piece) :: rest

/-- The lines of a text, as its line feeds divide it. -/
abbrev lines (t : Text) : List Text := splitOn '\n' t

/-- The pieces with `sep` between them. -/
def join (sep : Text) : List Text → Text
  | [] => []
  | [t] => t
  | t :: u :: rest => t ++ (sep ++ join sep (u :: rest))

/-- Lines put together with line feeds between them. -/
abbrev unlines (ls : List Text) : Text := join ['\n'] ls

/-- Line ends of every kind become line feeds. -/
def unifyLineEnds : Text → Text
  | [] => []
  | '\r' :: '\n' :: t => '\n' :: unifyLineEnds t
  | '\r' :: t => '\n' :: unifyLineEnds t
  | c :: t => c :: unifyLineEnds t

/-- Replaces the occurrences of `old`, left to right and not overlapping. The counter says how
many characters of an occurrence are still to be passed over. -/
def replaceFrom (old new : Text) : Nat → Text → Text
  | _, [] => []
  | k + 1, _ :: t => replaceFrom old new k t
  | 0, c :: t =>
    if startsWith old (c :: t) then new ++ replaceFrom old new (old.length - 1) t
    else c :: replaceFrom old new 0 t

/-- `t` with every occurrence of the non-empty `old` replaced by `new`. -/
def replace (old new t : Text) : Text := replaceFrom old new 0 t

/-- The text with each character replaced by a text of its own. -/
abbrev escapeWith (f : Char → Text) (t : Text) : Text := t.flatMap f

/-- What stands before and after the first occurrence of `sep`. -/
def cut? (sep : Text) : Text → Option (Text × Text)
  | [] => if sep.isEmpty then some ([], []) else none
  | c :: t =>
    match after? sep (c :: t) with
    | some rest => some ([], rest)
    | none => (cut? sep t).map fun (before, rest) => (c :: before, rest)

/-- Whether `sub` occurs in `t`. -/
def occursIn (sub t : Text) : Bool := (cut? sub t).isSome

/-- The pieces between the occurrences of a non-empty separator. The counter passes over the
characters of a separator that was found. -/
def splitOnFrom (sep : Text) : Nat → Text → List Text
  | _, [] => [[]]
  | k + 1, _ :: t => splitOnFrom sep k t
  | 0, c :: t =>
    if startsWith sep (c :: t) then [] :: splitOnFrom sep (sep.length - 1) t
    else
      match splitOnFrom sep 0 t with
      | [] => [[c]]
      | piece :: rest => (c :: piece) :: rest

/-- The pieces of `t` between the occurrences of the non-empty text `sep`. -/
def splitOnText (sep t : Text) : List Text := splitOnFrom sep 0 t

/-- The text written `n` times. -/
def times (n : Nat) (t : Text) : Text := (List.replicate n t).flatten

/-- `n` spaces. -/
abbrev spaces (n : Nat) : Text := List.replicate n ' '

/-- How many characters of a class stand in front. -/
def countStart (p : Char → Bool) (t : Text) : Nat := (t.takeWhile p).length

/-- Order by code point, a text before its continuations. -/
def lt : Text → Text → Bool
  | _, [] => false
  | [], _ :: _ => true
  | c :: s, d :: t => if c = d then lt s t else c.val < d.val

/-- Order by code point, as a test for sorting: `s` may stand before `t`. -/
def le (s t : Text) : Bool := !lt t s

/-- The digits of a number in base ten. -/
def ofNat (n : Nat) : Text := (Nat.repr n).toList

/-- The digits of an integer in base ten, after a minus sign where it is negative. -/
def ofInt (i : Int) : Text :=
  match i with
  | .ofNat n => ofNat n
  | .negSucc n => '-' :: ofNat (n + 1)

/-- The value of a text of ASCII digits. -/
def toNat? (t : Text) : Option Nat :=
  if t.isEmpty then none
  else t.foldl (fun acc c => acc.bind fun n =>
    if c.isDigit then some (10 * n + (c.toNat - '0'.toNat)) else none) (some 0)

theorem after?_append (start t : Text) : after? start (start ++ t) = some t := by
  induction start with
  | nil => rfl
  | cons c start ih => simp [after?, ih]

theorem eq_append_of_after? {start t rest : Text} (h : after? start t = some rest) :
    t = start ++ rest := by
  induction start generalizing t with
  | nil => simpa [after?] using h
  | cons c start ih =>
    cases t with
    | nil => simp [after?] at h
    | cons d t =>
      simp only [after?] at h
      split at h
      · next hcd => simp [hcd, ih h]
      · simp at h

theorem splitOn_ne_nil (sep : Char) (t : Text) : splitOn sep t ≠ [] := by
  cases t with
  | nil => simp [splitOn]
  | cons c t =>
    simp only [splitOn]
    split
    · simp
    · split <;> simp

/-- Splitting at a character and joining with it gives the text back. -/
theorem join_splitOn (sep : Char) (t : Text) : join [sep] (splitOn sep t) = t := by
  induction t with
  | nil => rfl
  | cons c t ih =>
    simp only [splitOn]
    split
    · next h => exact absurd h (splitOn_ne_nil sep t)
    · next piece rest h =>
      rw [h] at ih
      split
      · next hc => simp [join, ih, hc]
      · cases rest <;> simp_all [join]

end Text

end ApiSite
