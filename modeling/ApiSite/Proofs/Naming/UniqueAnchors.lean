import ApiSite.Naming
import ApiSite.Proofs.Text
import Mathlib.Data.List.Nodup
import Mathlib.Data.List.Perm.Subperm
import Mathlib.Order.Bounds.Basic

/-!
# Anchors that are made new

An anchor that has been used before gets a number behind it. Which number, is found by counting on
from two until the numbered anchor is a new one. Nothing in the counting bounds it; it ends because
only so many anchors have been used, and the numberings of one anchor are all different
(`exists_countsTo`). The fuel that bounds the search is as much as this takes
(`countsTo_firstFree`).

What one request gets is `IsGranted`: what it asks for where that is new, and otherwise its first
new numbering. Requests in a row each get this with the results of those before them among the
anchors that have been used, whatever numbered anchors are asked for (`uniqueAnchors_granted`).
-/

set_option autoImplicit false

namespace ApiSite.Naming

variable {anchor result : Text} {anchors used : List Text} {n last fuel : Nat}

/-! ### Numbered anchors -/

theorem numbered_ne (anchor : Text) (n : Nat) : numbered anchor n ≠ anchor := by
  intro h
  have hlength := congrArg List.length h
  simp [numbered] at hlength

theorem numbered_injective (anchor : Text) : Function.Injective (numbered anchor) := by
  intro m n h
  have hdigits := List.append_cancel_left h
  rw [List.cons.injEq] at hdigits
  exact Text.ofNat_injective hdigits.2

/-- An anchor and its numberings are not all used: they are more than the anchors that are. -/
theorem exists_numbered_not_mem (hused : anchor ∈ used) :
    ∃ i < used.length, numbered anchor (2 + i) ∉ used := by
  by_contra! htaken
  have hnodup : (anchor ::
      (List.range used.length).map fun i ↦ numbered anchor (2 + i)).Nodup := by
    refine List.nodup_cons.mpr ⟨fun h ↦ ?_, List.nodup_range.map fun i j h ↦ ?_⟩
    · obtain ⟨i, -, hi⟩ := List.mem_map.mp h
      exact numbered_ne anchor _ hi
    · exact Nat.add_left_cancel (numbered_injective anchor h)
  have hsubset : anchor :: (List.range used.length).map (fun i ↦ numbered anchor (2 + i)) ⊆
      used := by
    refine List.cons_subset.mpr ⟨hused, fun x hx ↦ ?_⟩
    obtain ⟨i, hi, rfl⟩ := List.mem_map.mp hx
    exact htaken i (List.mem_range.mp hi)
  have hlength := (List.subperm_of_subset hnodup hsubset).length_le
  simp only [List.length_cons, List.length_map, List.length_range] at hlength
  omega

/-! ### Counting -/

/-- Counting on from a number ends at another one: at itself if its anchor is new, and otherwise
where counting on from the next number ends. -/
inductive CountsTo (used : List Text) (anchor : Text) : (n last : Nat) → Prop
  | free {n : Nat} (hfree : numbered anchor n ∉ used) : CountsTo used anchor n n
  | taken {n last : Nat} (htaken : numbered anchor n ∈ used)
    (hrest : CountsTo used anchor (n + 1) last) : CountsTo used anchor n last

/-- The numbers from `n` on that make an anchor a new one. -/
def freeNumbers (used : List Text) (anchor : Text) (n : Nat) : Set Nat :=
  {m | n ≤ m ∧ numbered anchor m ∉ used}

/-- Counting ends at the least number that makes the anchor a new one. -/
theorem CountsTo.isLeast (h : CountsTo used anchor n last) :
    IsLeast (freeNumbers used anchor n) last := by
  induction h with
  | free hfree => exact ⟨⟨le_rfl, hfree⟩, fun m hm ↦ hm.1⟩
  | taken htaken _ ih =>
    obtain ⟨⟨hle, hfree⟩, hleast⟩ := ih
    refine ⟨⟨Nat.le_of_succ_le hle, hfree⟩, fun m hm ↦ hleast ⟨?_, hm.2⟩⟩
    exact Nat.lt_of_le_of_ne hm.1 fun heq ↦ hm.2 (heq ▸ htaken)

/-- With enough fuel, the search finds where counting ends. -/
theorem countsTo_firstFree (h : ∃ i < fuel, numbered anchor (n + i) ∉ used) :
    CountsTo used anchor n (firstFree used anchor fuel n) := by
  induction fuel generalizing n with
  | zero =>
    obtain ⟨i, hi, -⟩ := h
    exact absurd hi (Nat.not_lt_zero i)
  | succ fuel ih =>
    rw [firstFree]
    by_cases hn : numbered anchor n ∈ used
    · rw [if_pos (List.contains_iff_mem.mpr hn)]
      refine .taken hn (ih ?_)
      obtain ⟨_ | i, hi, hfree⟩ := h
      · exact absurd hn hfree
      · exact ⟨i, Nat.lt_of_succ_lt_succ hi, by rwa [Nat.add_right_comm, Nat.add_assoc]⟩
    · rw [if_neg fun h ↦ hn (List.contains_iff_mem.mp h)]
      exact .free hn

/-- Counting from two on ends. -/
theorem exists_countsTo (used : List Text) (anchor : Text) :
    ∃ last, CountsTo used anchor 2 last := by
  -- whether the anchor itself is used makes no difference to the counting
  obtain ⟨i, hi, hfree⟩ := exists_numbered_not_mem (List.mem_cons_self (a := anchor) (l := used))
  exact ⟨_, countsTo_firstFree ⟨i, hi, mt (List.mem_cons_of_mem anchor) hfree⟩⟩

/-! ### One request -/

/-- What an anchor that is asked for becomes: itself if it is new, and otherwise its numbering at
which counting from two on ends, which is the least number that makes it a new one. -/
inductive IsGranted (used : List Text) (anchor : Text) : Text → Prop
  | new (hnew : anchor ∉ used) : IsGranted used anchor anchor
  | numbered (hused : anchor ∈ used) {n : Nat} (hcounts : CountsTo used anchor 2 n)
    (hleast : IsLeast (freeNumbers used anchor 2) n) : IsGranted used anchor (numbered anchor n)

theorem IsGranted.not_mem (h : IsGranted used anchor result) : result ∉ used := by
  cases h with
  | new hnew => exact hnew
  | numbered _ _ hleast => exact hleast.1.2

/-- What is new stays as it is. -/
theorem IsGranted.eq_self (h : IsGranted used anchor result) (hnew : anchor ∉ used) :
    result = anchor := by
  cases h with
  | new => rfl
  | numbered hused => exact absurd hused hnew

theorem isGranted_uniqueAnchor (anchor : Text) (used : List Text) :
    IsGranted used anchor (uniqueAnchor anchor used).1 := by
  by_cases hused : anchor ∈ used
  · have hcounts := countsTo_firstFree (exists_numbered_not_mem hused)
    rw [uniqueAnchor, if_pos (List.contains_iff_mem.mpr hused)]
    exact .numbered hused hcounts hcounts.isLeast
  · rw [uniqueAnchor, if_neg fun h ↦ hused (List.contains_iff_mem.mp h)]
    exact .new hused

theorem uniqueAnchor_snd : (uniqueAnchor anchor used).2 = used ++ [(uniqueAnchor anchor used).1] :=
  rfl

/-- A unique anchor is none of those used before. -/
theorem uniqueAnchor_not_mem (anchor : Text) (used : List Text) :
    (uniqueAnchor anchor used).1 ∉ used :=
  (isGranted_uniqueAnchor anchor used).not_mem

/-- An anchor stays as it is exactly if it is new. -/
theorem uniqueAnchor_eq_self_iff : (uniqueAnchor anchor used).1 = anchor ↔ anchor ∉ used := by
  refine ⟨fun h ↦ ?_, (isGranted_uniqueAnchor anchor used).eq_self⟩
  exact h ▸ uniqueAnchor_not_mem anchor used

/-! ### Requests in a row -/

/-- Makes anchors unique one after the other: what they become, and the anchors that are used from
then on. -/
def uniqueAnchors : (anchors used : List Text) → List Text × List Text
  | [], used => ([], used)
  | anchor :: rest, used =>
    let (result, used) := uniqueAnchor anchor used
    let (results, used) := uniqueAnchors rest used
    (result :: results, used)

theorem uniqueAnchors_cons (anchor : Text) (rest used : List Text) :
    uniqueAnchors (anchor :: rest) used =
      ((uniqueAnchor anchor used).1 ::
          (uniqueAnchors rest (used ++ [(uniqueAnchor anchor used).1])).1,
        (uniqueAnchors rest (used ++ [(uniqueAnchor anchor used).1])).2) := rfl

theorem uniqueAnchors_snd (anchors used : List Text) :
    (uniqueAnchors anchors used).2 = used ++ (uniqueAnchors anchors used).1 := by
  induction anchors generalizing used with
  | nil => exact (List.append_nil used).symm
  | cons anchor rest ih => rw [uniqueAnchors_cons, ih, List.append_assoc, List.singleton_append]

theorem length_uniqueAnchors (anchors used : List Text) :
    (uniqueAnchors anchors used).1.length = anchors.length := by
  induction anchors generalizing used with
  | nil => rfl
  | cons anchor rest ih => rw [uniqueAnchors_cons, List.length_cons, ih, List.length_cons]

/-- New anchors differ from each other, and from those used before. -/
theorem nodup_uniqueAnchors (anchors used : List Text) :
    (uniqueAnchors anchors used).1.Nodup ∧ ∀ result ∈ (uniqueAnchors anchors used).1,
      result ∉ used := by
  induction anchors generalizing used with
  | nil => exact ⟨List.nodup_nil, fun _ h ↦ absurd h List.not_mem_nil⟩
  | cons anchor rest ih =>
    obtain ⟨hnodup, hnew⟩ := ih (used ++ [(uniqueAnchor anchor used).1])
    rw [uniqueAnchors_cons]
    refine ⟨List.nodup_cons.mpr ⟨fun hmem ↦ ?_, hnodup⟩, ?_⟩
    · exact hnew _ hmem (List.mem_append_right _ List.mem_cons_self)
    · rintro result (_ | ⟨_, hmem⟩)
      · exact uniqueAnchor_not_mem anchor used
      · exact fun hused ↦ hnew result hmem (List.mem_append_left _ hused)

/-- Each request gets what it would get alone, the results of those before it being used. -/
theorem isGranted_of_getElem? {i : Nat} (hanchor : anchors[i]? = some anchor)
    (hresult : (uniqueAnchors anchors used).1[i]? = some result) :
    IsGranted (used ++ (uniqueAnchors anchors used).1.take i) anchor result := by
  induction anchors generalizing used i with
  | nil => cases hanchor
  | cons head rest ih =>
    rw [uniqueAnchors_cons] at hresult ⊢
    cases i with
    | zero =>
      cases hanchor
      cases hresult
      rw [List.take_zero, List.append_nil]
      exact isGranted_uniqueAnchor _ used
    | succ i =>
      rw [List.getElem?_cons_succ] at hanchor hresult
      rw [List.take_succ_cons, List.append_cons]
      exact ih hanchor hresult

/-- **Requests in a row get new anchors.** For all anchors used before and all requests: each
request is granted what it asks for where that is new, and otherwise its least new numbering from
two on, the results of the requests before it being used as well. The results are as many as the
requests, differ from each other and from the anchors used before, and they and those are the
anchors that are used afterwards. -/
theorem uniqueAnchors_granted (anchors used : List Text) :
    let (results, after) := uniqueAnchors anchors used
    results.length = anchors.length ∧
      (∀ i anchor result, anchors[i]? = some anchor → results[i]? = some result →
        IsGranted (used ++ results.take i) anchor result) ∧
      results.Nodup ∧ (∀ result ∈ results, result ∉ used) ∧
      ∀ x, x ∈ after ↔ x ∈ used ∨ x ∈ results := by
  obtain ⟨hnodup, hnew⟩ := nodup_uniqueAnchors anchors used
  refine ⟨length_uniqueAnchors anchors used, fun i anchor result ↦ isGranted_of_getElem?, hnodup,
    hnew, fun x ↦ ?_⟩
  rw [uniqueAnchors_snd, List.mem_append]

/-- An anchor that looks like a numbered one takes its number away from the others. -/
example : (uniqueAnchors ["a", "a-2", "a", "a-2"] ["a"]).1 =
    Text.ofStrings ["a-2", "a-2-2", "a-3", "a-2-3"] := by decide

end ApiSite.Naming
