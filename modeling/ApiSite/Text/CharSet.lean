/-!
Sets of characters given by their ranges. A set is written down as a text of hexadecimal ranges,
the way the character database prints them, and looked up by bisection.
-/

set_option autoImplicit false

namespace ApiSite

/-- A set of characters: ascending, disjoint ranges of code points, ends included. -/
structure CharSet where
  ranges : Array (Nat × Nat)

namespace CharSet

/-- The value of a hexadecimal digit in lower case; other characters count as zero. -/
def hexValue (c : Char) : Nat :=
  if c.isDigit then c.toNat - '0'.toNat
  else if 'a' ≤ c ∧ c ≤ 'f' then c.toNat - 'a'.toNat + 10 else 0

/-- The number written in hexadecimal digits. -/
def hexNumber (t : List Char) : Nat := t.foldl (fun n c => 16 * n + hexValue c) 0

/-- Reads one range: `41-5a`, or `5f` for a single character. -/
def readRange (t : List Char) : Nat × Nat :=
  let low := t.takeWhile (· ≠ '-')
  match t.dropWhile (· ≠ '-') with
  | [] => (hexNumber low, hexNumber low)
  | _ :: high => (hexNumber low, hexNumber high)

/-- The entries of a table: what stands between its spaces and line ends. -/
def entries (s : String) : List (List Char) :=
  let close (word : List Char) (done : List (List Char)) :=
    if word.isEmpty then done else word.reverse :: done
  let last := s.toList.foldl (fun (word, done) c =>
    if c = ' ' ∨ c = '\n' then ([], close word done) else (c :: word, done)) ([], [])
  (close last.1 last.2).reverse

/-- Reads a set from its ranges in hexadecimal, separated by spaces. -/
def ofHex (s : String) : CharSet := ⟨((entries s).map readRange).toArray⟩

/-- Looks for the range of `n` among those from `low` up to, not including, `high`; `steps` bounds
the number of halvings. -/
def bisect (ranges : Array (Nat × Nat)) (n : Nat) : Nat → Nat → Nat → Bool
  | 0, _, _ => false
  | steps + 1, low, high =>
    if low < high then
      let middle := (low + high) / 2
      match ranges[middle]? with
      | none => false
      | some (first, last) =>
        if n < first then bisect ranges n steps low middle
        else if last < n then bisect ranges n steps (middle + 1) high
        else true
    else false

/-- Whether a character is in the set. -/
def contains (s : CharSet) (c : Char) : Bool :=
  bisect s.ranges c.toNat (s.ranges.size + 1) 0 s.ranges.size

end CharSet

end ApiSite
