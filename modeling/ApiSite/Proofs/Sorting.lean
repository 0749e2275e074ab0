import ApiSite.Proofs.Text
import Mathlib.Data.Char
import Mathlib.Data.List.Lex

/-!
# What sorting by names comes to

Texts are compared by code point, which is the usual order of lists (`lt_iff`), and sorting by a key
puts no item after one with a greater key (`pairwise_sortBy`). Sorting by a name whose letter case
counts for nothing also leaves items with one name in the order in which they were
(`pairwise_sortByName`).
-/

set_option autoImplicit false

namespace ApiSite.Text

variable {α : Type} {s t : Text}

/-- The order by code point is that of lists of characters. -/
theorem lt_iff : lt s t = true ↔ s < t := by
  induction s generalizing t with
  | nil => cases t <;> simp [lt]
  | cons c s ih =>
    cases t with
    | nil => simp [lt]
    | cons d t =>
      rw [List.cons_lt_cons_iff, lt]
      split
      · next hcd => simp [hcd, ih]
      · next hcd => simp [hcd, Char.lt_def]

theorem le_iff : le s t = true ↔ s ≤ t := by
  rw [le, Bool.not_eq_true', ← Bool.not_eq_true, lt_iff, not_lt]

/-- Ordered texts ascend strictly once each stands there only once. -/
theorem pairwise_lt_eraseDups {l : List Text} (hl : l.Pairwise (· ≤ ·)) :
    l.eraseDups.Pairwise (· < ·) := by
  induction hlength : l.length using Nat.strong_induction_on generalizing l with
  | _ n ih =>
    cases l with
    | nil => exact List.Pairwise.nil
    | cons t l =>
      obtain ⟨hhead, htail⟩ := List.pairwise_cons.mp hl
      have hshorter : (l.filter fun u ↦ !u == t).length < n := by
        rw [← hlength, List.length_cons]
        exact Nat.lt_succ_of_le (List.length_filter_le _ l)
      rw [List.eraseDups_cons, List.pairwise_cons]
      refine ⟨fun u hu ↦ ?_, ih _ hshorter (htail.filter _) rfl⟩
      obtain ⟨hmem, hne⟩ := List.mem_filter.mp (List.mem_eraseDups.mp hu)
      exact lt_of_le_of_ne (hhead u hmem) fun heq ↦ by simp [heq] at hne

theorem sortByName_eq_mergeSort (name : α → Text) (l : List α) :
    sortByName name l = l.mergeSort fun a b ↦ le (lower (name a)) (lower (name b)) := by
  have hmap : (l.mergeSort fun a b ↦ le (lower (name a)) (lower (name b))).map
      (fun a ↦ (lower (name a), a)) =
        (l.map fun a ↦ (lower (name a), a)).mergeSort fun x y ↦ le x.1 y.1 :=
    List.map_mergeSort fun _ _ _ _ ↦ rfl
  rw [sortByName, sortBy, ← hmap, List.map_map]
  exact List.map_id _

section Order

variable (key : α → Text)

theorem le_trans_key (a b c : α) (hab : le (key a) (key b) = true)
    (hbc : le (key b) (key c) = true) : le (key a) (key c) = true :=
  le_iff.mpr ((le_iff.mp hab).trans (le_iff.mp hbc))

theorem le_total_key (a b : α) : (le (key a) (key b) || le (key b) (key a)) = true := by
  rw [Bool.or_eq_true, le_iff, le_iff]
  exact le_total _ _

/-- Sorted items are ordered by their keys. -/
theorem pairwise_sortBy (l : List α) : (sortBy key l).Pairwise fun a b ↦ key a ≤ key b :=
  (List.pairwise_mergeSort (le_trans_key key) (le_total_key key) l).imp le_iff.mp

variable (name : α → Text)

/-- Items of one name stay in their order. -/
theorem filter_sortByName (l : List α) (key : Text) :
    (sortByName name l).filter (fun a ↦ lower (name a) == key) =
      l.filter fun a ↦ lower (name a) == key := by
  have hkeys : (l.filter fun a ↦ lower (name a) == key).Pairwise fun a b ↦
      le (lower (name a)) (lower (name b)) = true := by
    refine List.pairwise_of_forall_mem_list fun a ha b hb ↦ ?_
    rw [eq_of_beq (List.mem_filter.mp ha).2, eq_of_beq (List.mem_filter.mp hb).2, le_iff]
  have hsub : (l.filter fun a ↦ lower (name a) == key).Sublist (sortByName name l) := by
    rw [sortByName_eq_mergeSort]
    exact List.sublist_mergeSort (le_trans_key fun a ↦ lower (name a))
      (le_total_key fun a ↦ lower (name a)) hkeys List.filter_sublist
  have hfilter := hsub.filter fun a ↦ lower (name a) == key
  simp only [List.filter_filter, Bool.and_self] at hfilter
  exact (hfilter.eq_of_length ((sortByName_perm name l).filter _).length_eq.symm).symm

/-- Sorted items are ordered by their names, and those of one name as they were before. -/
theorem pairwise_sortByName (l : List α) :
    (sortByName name l).Pairwise fun a b ↦ lower (name a) < lower (name b) ∨
      lower (name a) = lower (name b) ∧ [a, b].Sublist l := by
  have hsorted : (sortByName name l).Pairwise fun a b ↦ lower (name a) ≤ lower (name b) := by
    rw [sortByName_eq_mergeSort]
    exact pairwise_sortBy (fun a ↦ lower (name a)) l
  refine List.pairwise_iff_forall_sublist.mpr fun {a b} hab ↦ ?_
  have hle := List.pairwise_iff_forall_sublist.mp hsorted hab
  refine hle.lt_or_eq.imp_right fun heq ↦ ⟨heq, ?_⟩
  have hfilter := hab.filter fun c ↦ lower (name c) == lower (name b)
  rw [filter_sortByName] at hfilter
  simp only [List.filter_cons, heq, beq_self_eq_true, if_true, List.filter_nil] at hfilter
  exact hfilter.trans List.filter_sublist

end Order

end ApiSite.Text
