import ApiSite.Text.LetterCase
import Mathlib.Data.List.Basic

/-!
# Lower case and hyphens

A hyphen has no case and ends a word. So the part of a text in front of a hyphen has the lower case
that it has alone (`lowerFrom_append_hyphen`), and lower case makes no hyphens where there were none
(`hyphen_not_mem_lower`).
-/

set_option autoImplicit false

namespace ApiSite.Text

variable {t before : Text} {c : Char}

/-! ### In front of a hyphen -/

/-- A hyphen has no case, and no case is read across it. -/
theorem nextIsCased_append_hyphen (t rest : Text) :
    nextIsCased (t ++ '-' :: rest) = nextIsCased t := by
  have hignorable : caseIgnorableChars.contains '-' = false := by decide +kernel
  have hcased : casedChars.contains '-' = false := by decide +kernel
  induction t with
  | nil => simp [nextIsCased, hignorable, hcased]
  | cons c t ih => simp only [List.cons_append, nextIsCased, ih]

theorem lowerFrom_append_hyphen (before t rest : Text) :
    lowerFrom before (t ++ '-' :: rest) =
      lowerFrom before t ++ '-' :: lowerFrom ('-' :: (t.reverse ++ before)) rest := by
  induction t generalizing before with
  | nil => rfl
  | cons c t ih =>
    simp only [List.cons_append, lowerFrom, ih, nextIsCased_append_hyphen, List.append_assoc,
      List.reverse_cons, List.nil_append]

/-- A text of ASCII characters that are no capitals is its own lower case, whatever stands before
it. -/
theorem lowerFrom_eq_self (ht : ∀ c ∈ t, c.toNat < 128 ∧ c.toLower = c) :
    lowerFrom before t = t := by
  induction t generalizing before with
  | nil => rfl
  | cons c t ih =>
    obtain ⟨hascii, hsmall⟩ := ht c List.mem_cons_self
    rw [lowerFrom, ih fun d hd ↦ ht d (List.mem_cons_of_mem _ hd)]
    simp [hascii, hsmall]

/-! ### Characters that lower case makes -/

theorem of_findCaseRun {n steps low high : Nat} {run : CaseRun}
    (h : findCaseRun n steps low high = some run) : run ∈ caseRuns ∧ run.first ≤ n := by
  induction steps generalizing low high with
  | zero => cases h
  | succ steps ih =>
    rw [findCaseRun] at h
    split at h
    · simp only at h
      split at h
      · cases h
      · next found hfound =>
        split at h
        · exact ih h
        · next hfirst =>
          split at h
          · exact ih h
          · split at h
            · obtain rfl := Option.some.inj h
              exact ⟨Array.mem_of_getElem? hfound, Nat.le_of_not_lt hfirst⟩
            · cases h
    · cases h

/-- Small letters that lie below their capitals lie above the hyphen. -/
theorem distance_lt_first_of_mem_caseRuns {run : CaseRun} (hrun : run ∈ caseRuns)
    (hdown : run.up = false) : run.distance + '-'.toNat < run.first := by
  have hall : caseRuns.all fun run ↦ run.up || run.distance + '-'.toNat < run.first := by
    decide +kernel
  simpa [hdown] using Array.all_eq_true_iff_forall_mem.mp hall run hrun

theorem toNat_eq_of_ofNat_eq {n : Nat} {c : Char} (h : Char.ofNat n = c) (hc : c ≠ Char.ofNat 0) :
    c.toNat = n := by
  subst h
  by_cases hn : n.isValidChar
  · rw [Char.ofNat, dif_pos hn]
    rfl
  · rw [Char.ofNat, dif_neg hn] at hc
    exact absurd rfl hc

/-- A character below the small letters is the small letter of no other one. -/
theorem toLower_ne {x : Char} (hx : x.toNat < 'a'.toNat) (hc : c ≠ x) : c.toLower ≠ x := by
  intro hsmall
  unfold Char.toLower at hsmall
  split at hsmall
  · next hcapital =>
    have hcode := congrArg (fun d : Char ↦ d.val.toNat) hsmall
    have hfirst : 65 ≤ c.val.toNat := UInt32.le_iff_toNat_le.mp hcapital.1
    have hlast : c.val.toNat ≤ 90 := UInt32.le_iff_toNat_le.mp hcapital.2
    have hsum : (c.val + ('a'.val - 'A'.val)).toNat = (c.val.toNat + 32) % 2 ^ 32 := rfl
    simp only [hsum, Nat.reducePow] at hcode
    have hx : x.val.toNat < 97 := hx
    omega
  · exact hc hsmall

section Low

variable {x : Char} (hzero : x ≠ Char.ofNat 0) (hlow : x.toNat ≤ '-'.toNat)

include hlow

theorem ne_of_hyphen_lt {d : Char} (hd : '-'.toNat < d.toNat) : x ≠ d := by
  rintro rfl
  exact absurd hlow (Nat.not_le.mpr hd)

include hzero

theorem lowerChar_ne (hc : 128 ≤ c.toNat) : lowerChar c ≠ x := by
  rw [lowerChar, if_neg (Nat.not_lt.mpr hc)]
  have hvalue : '-'.toNat = 45 := rfl
  split
  · rintro rfl
    omega
  · next run hrun =>
    obtain ⟨hmem, hfirst⟩ := of_findCaseRun hrun
    intro heq
    have hcode := toNat_eq_of_ofNat_eq heq hzero
    split at hcode
    · omega
    · next hup =>
      have hdown := distance_lt_first_of_mem_caseRuns hmem (Bool.eq_false_iff.mpr hup)
      omega

theorem not_mem_lowerFrom (ht : x ∉ t) : x ∉ lowerFrom before t := by
  induction t generalizing before with
  | nil => exact List.not_mem_nil
  | cons c t ih =>
    have hc : c ≠ x := fun heq ↦ ht (heq ▸ List.mem_cons_self)
    have hne {d : Char} (hd : '-'.toNat < d.toNat) : x ∉ [d] := by
      simpa using ne_of_hyphen_lt hlow hd
    rw [lowerFrom, List.mem_append, not_or]
    refine ⟨?_, ih (mt (List.mem_cons_of_mem c) ht)⟩
    split
    · simpa using (toLower_ne (Nat.lt_of_le_of_lt hlow (by decide)) hc).symm
    · next hascii =>
      split
      · split
        · exact hne (by decide)
        · exact hne (by decide)
      · split
        · exact List.not_mem_cons_of_ne_of_not_mem (ne_of_hyphen_lt hlow (by decide))
            (hne (by decide))
        · simpa using (lowerChar_ne hzero hlow (Nat.le_of_not_lt hascii)).symm

/-- Lower case makes none of the characters up to the hyphen where there were none. -/
theorem not_mem_lower (ht : x ∉ t) : x ∉ lower t := not_mem_lowerFrom hzero hlow ht

end Low

theorem hyphen_not_mem_lower (ht : '-' ∉ t) : '-' ∉ lower t :=
  not_mem_lower (by decide) (by decide) ht

end ApiSite.Text
