import ApiSite.Markup.Mark
import ApiSite.Proofs.Text

/-!
# Marks

A mark is read back as the number that it was made for (`Mark.read?_mark`), so replacing the marks
of a text puts the text of each number in the place of its mark (`Mark.substitute_mark_append`). In
particular the mark of an escaped character becomes a backslash and this character again
(`Mark.restoreBackslashes_escaped_append`). A text without a character that a mark begins with has
no marks to replace.
-/

set_option autoImplicit false

namespace ApiSite

open Text (ofNat)

variable {key t : Text} {value : Nat → Text} {n : Nat} {c x : Char}

namespace Markup.Mark

/-! ### Texts with marks -/

theorem isDigit_of_mem_ofNat (hc : c ∈ ofNat n) : isDigit key c = true := by
  have hdigit := Text.isDigit_of_mem_ofNat hc
  rw [isDigit]
  split
  · exact Text.isDecimal_of_isDigit hdigit
  · exact hdigit

/-- A mark is read as the number in it. -/
theorem read?_mark :
    read? key (opening :: key ++ ofNat n ++ closing :: t) =
      some (n, key.length + (ofNat n).length + 2, t) := by
  have hclosing : isDigit key closing = false := by
    rw [isDigit]
    split <;> rfl
  have hdigits : (ofNat n ++ closing :: t).takeWhile (isDigit key) = ofNat n :=
    Text.takeWhile_append_of_head? (fun _ ↦ isDigit_of_mem_ofNat) fun
      | _, rfl => hclosing
  rw [read?, List.append_assoc, Text.after?_append]
  simp only [hdigits, Text.decimalNumber?_ofNat, List.drop_left, if_true]

theorem substituteFrom_length (s : Text) :
    substituteFrom key value s.length (s ++ t) = substitute key value t := by
  induction s with
  | nil => rfl
  | cons c s ih => exact ih

/-- **A mark gives way to the text of its number.** -/
theorem substitute_mark_append :
    substitute key value (opening :: key ++ ofNat n ++ closing :: t) =
      value n ++ substitute key value t := by
  have hread := @read?_mark key t n
  have hrest : key ++ ofNat n ++ closing :: t = (key ++ ofNat n ++ [closing]) ++ t := by simp
  have hsize : key.length + (ofNat n).length + 2 - 1 = (key ++ ofNat n ++ [closing]).length := by
    simp [Nat.add_assoc]
  rw [List.cons_append, List.cons_append] at hread ⊢
  rw [substitute, substituteFrom, hread]
  simp only
  rw [hsize, hrest, substituteFrom_length]

theorem substitute_cons (hc : c ≠ opening) :
    substitute key value (c :: t) = c :: substitute key value t := by
  have hread : read? key (c :: t) = none := by
    rw [read?, Text.after?, if_neg hc.symm]
  rw [substitute, substituteFrom, hread]
  rfl

theorem substitute_append {u : Text} (hu : opening ∉ u) :
    substitute key value (u ++ t) = u ++ substitute key value t := by
  induction u with
  | nil => rfl
  | cons c u ih =>
    rw [List.cons_append, substitute_cons (ne_of_mem_of_not_mem List.mem_cons_self hu),
      ih (mt (List.mem_cons_of_mem _) hu), List.cons_append]

/-- The mark of an escaped character becomes a backslash and this character. -/
theorem restoreBackslashes_escaped_append :
    restoreBackslashes (escaped c ++ t) = '\\' :: c :: restoreBackslashes t := by
  have hmark : escaped c ++ t = opening :: [] ++ ofNat c.toNat ++ closing :: t := by
    simp [escaped]
  rw [hmark, restoreBackslashes, substitute_mark_append, Char.ofNat_toNat]
  rfl

/-! ### Texts without marks -/

/-- A text without one of the characters that a mark begins with has no such marks to replace. -/
theorem substitute_eq_self_of_not_mem (hx : x ∈ opening :: key) (ht : x ∉ t) :
    substitute key value t = t := by
  rw [substitute]
  induction t with
  | nil => rfl
  | cons c t ih =>
    have hread : read? key (c :: t) = none := by
      rw [read?, Text.after?_eq_none hx ht]
    rw [substituteFrom, hread]
    exact congrArg (c :: ·) (ih (mt (List.mem_cons_of_mem _) ht))

theorem substitute_eq_self (ht : opening ∉ t) : substitute key value t = t :=
  substitute_eq_self_of_not_mem List.mem_cons_self ht

end Markup.Mark

end ApiSite
