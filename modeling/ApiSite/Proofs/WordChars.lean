import ApiSite.Text.Blank
import ApiSite.Text.WordChar

/-!
# Characters of words

Words hold no white space, in any script (`isBlank_of_isWord`). The table of word characters is
written down as one long text, so it is read here once, one character after another
(`entries_eq_readEntries`), and its ranges are compared with the few characters that are white
space.
-/

set_option autoImplicit false

namespace ApiSite

namespace CharSet

/-! ### Tables -/

/-- The entries of a table, given what has been read of the current one in reverse. -/
def readEntries : List Char → List Char → List (List Char)
  | word, [] => if word.isEmpty then [] else [word.reverse]
  | word, c :: t =>
    if c = ' ' ∨ c = '\n' then
      if word.isEmpty then readEntries [] t else word.reverse :: readEntries [] t
    else readEntries (c :: word) t

theorem entries_eq_readEntries (s : String) : entries s = readEntries [] s.toList := by
  let close (word : List Char) (done : List (List Char)) :=
    if word.isEmpty then done else word.reverse :: done
  have hfold (t word : List Char) (done : List (List Char)) :
      let last := t.foldl (fun (read : List Char × List (List Char)) c ↦
        if c = ' ' ∨ c = '\n' then ([], close read.1 read.2)
        else (c :: read.1, read.2)) (word, done)
      (close last.1 last.2).reverse = done.reverse ++ readEntries word t := by
    induction t generalizing word done with
    | nil => cases word <;> simp [close, readEntries]
    | cons c t ih =>
      rw [List.foldl_cons, readEntries]
      by_cases hc : c = ' ' ∨ c = '\n'
      · simp only [if_pos hc]
        rw [ih]
        cases word <;> simp [close]
      · simp only [if_neg hc]
        exact ih (c :: word) done
  exact hfold s.toList [] []

/-- Bisection finds nothing but a range that the number lies in. -/
theorem exists_range_of_bisect {ranges : Array (Nat × Nat)} {n steps low high : Nat}
    (h : bisect ranges n steps low high = true) : ∃ r ∈ ranges, r.1 ≤ n ∧ n ≤ r.2 := by
  induction steps generalizing low high with
  | zero => cases h
  | succ steps ih =>
    rw [bisect] at h
    split at h
    · simp only at h
      split at h
      · cases h
      · next first last hrange =>
        split at h
        · exact ih h
        · next hfirst =>
          split at h
          · exact ih h
          · next hlast =>
            exact ⟨_, Array.mem_of_getElem? hrange, Nat.le_of_not_lt hfirst,
              Nat.le_of_not_lt hlast⟩
    · cases h

end CharSet

namespace Text

/-! ### Words and white space -/

/-- The white space beyond ASCII. -/
def wideBlanks : List Nat :=
  [0x85, 0xa0, 0x1680, 0x2000, 0x2001, 0x2002, 0x2003, 0x2004, 0x2005, 0x2006, 0x2007, 0x2008,
    0x2009, 0x200a, 0x2028, 0x2029, 0x202f, 0x205f, 0x3000]

theorem mem_wideBlanks {c : Char} (hc : isBlank c = true) (hwide : ¬c.toNat < 128) :
    c.toNat ∈ wideBlanks := by
  simp only [isBlank, Bool.or_eq_true, Bool.and_eq_true, decide_eq_true_eq, beq_iff_eq] at hc
  simp only [wideBlanks, List.mem_cons, List.not_mem_nil, or_false]
  omega

set_option maxRecDepth 100000 in
/-- No range of the table of word characters holds white space. -/
theorem wordChars_avoid_wideBlanks : ∃ t, wordChars = .ofHex (String.ofList t) ∧
    ((CharSet.readEntries [] t).map CharSet.readRange).all
      (fun r ↦ wideBlanks.all fun n ↦ n < r.1 || r.2 < n) = true :=
  ⟨_, rfl, by decide +kernel⟩

/-- White space belongs to no word. -/
theorem isBlank_of_isWord {c : Char} (hc : isWord c = true) : isBlank c = false := by
  refine Bool.eq_false_iff.mpr fun hblank ↦ ?_
  by_cases hascii : c.toNat < 128
  · have hall : ∀ n < 128, isBlank (Char.ofNat n) = true → isWord (Char.ofNat n) = false := by
      decide
    have hword := hall c.toNat hascii
    rw [Char.ofNat_toNat, hc] at hword
    cases hword hblank
  · rw [isWord, if_neg hascii] at hc
    obtain ⟨r, hr, hlow, hhigh⟩ := CharSet.exists_range_of_bisect hc
    obtain ⟨t, htable, havoid⟩ := wordChars_avoid_wideBlanks
    rw [htable, CharSet.ofHex, CharSet.entries_eq_readEntries, String.toList_ofList,
      List.mem_toArray] at hr
    have hoff := List.all_eq_true.mp (List.all_eq_true.mp havoid r hr) c.toNat
      (mem_wideBlanks hblank hascii)
    simp only [Bool.or_eq_true, decide_eq_true_eq] at hoff
    omega

end Text

end ApiSite
