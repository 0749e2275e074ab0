import ApiSite.Proofs.Sanitize.Accounting
import Mathlib.Data.List.ReduceOption

/-!
# What cleaning leaves

Each rule of cleaning is applied once, from left to right, and what it deletes joins what stood on
the two sides. So a construct may come into being that no rule was ever shown: the text
`<scr<script></script>ipt>` loses an element and is a tag then (`sanitize_tag_within_tag`).

What can be said of a cleaned text is that nothing else is left. Here the text is followed through
the rules with a mark on either side of what each removal has left (`Marks`). The marks are those
of the removals that are accounted for, one after the other (`marksAll_marked`). The main result,
`sanitize_marked`, says that what a rule would still remove from a cleaned text reaches across a
mark, and that what stands between two marks was in the text before, or is the opening of an
attribute that held an address. In particular a text from which nothing has been removed holds
nothing that a rule would find (`sanitize_of_no_removals`).

One pass of a rule copies what it does not edit, so that a run of characters between two marks is a
run between two marks before (`isRun_of_isRun_markFrom`), and the rule refused at each of its
characters (`isFree_markFrom`). What earlier rules found nothing in stays so. At the end braces are
escaped; a run of the escaped text is what is seen of a run before (`Escapes.exists_isRun`).
-/

set_option autoImplicit false

namespace ApiSite.Sanitize

variable {c : Char} {s t u : Text} {rule other : Rule} {kept : Bool} {k : Nat}
  {rs rs' : List Rule} {r : Removal} {removals others : List Removal}

/-! ### Marked texts -/

/-- A text with marks at some places. -/
abbrev Marked := List (Option Char)

/-- The text without its marks. -/
def textOf (m : Marked) : Text := m.reduceOption

variable {m m' m'' : Marked}

@[simp]
theorem textOf_nil : textOf [] = [] := rfl

@[simp]
theorem textOf_none : textOf (none :: m) = textOf m := rfl

@[simp]
theorem textOf_some : textOf (some c :: m) = c :: textOf m := rfl

@[simp]
theorem textOf_append : textOf (m ++ m') = textOf m ++ textOf m' := List.reduceOption_append m m'

@[simp]
theorem textOf_map_some : textOf (t.map some) = t := by
  induction t with
  | nil => rfl
  | cons c t ih => exact congrArg (c :: ·) ih

theorem count_map_some (t : Text) : (t.map some).count none = 0 := by
  rw [List.count_eq_zero]
  simp

theorem map_some_textOf (h : none ∉ m) : (textOf m).map some = m := by
  induction m with
  | nil => rfl
  | cons x m ih =>
    cases x with
    | none => exact absurd List.mem_cons_self h
    | some c => exact congrArg (some c :: ·) (ih (mt (List.mem_cons_of_mem _) h))

/-- A text stands somewhere between two marks. -/
def IsRun (m : Marked) (u : Text) : Prop := u.map some <:+: m

/-- A text stands in front of all marks. -/
def IsFirstRun (m : Marked) (u : Text) : Prop := u.map some <+: m

theorem IsFirstRun.isRun (h : IsFirstRun m u) : IsRun m u := List.IsPrefix.isInfix h

theorem isFirstRun_nil : IsFirstRun m [] := List.nil_prefix

theorem isFirstRun_cons_iff {x : Option Char} : IsFirstRun (x :: m) u ↔
    u = [] ∨ ∃ c v, x = some c ∧ u = c :: v ∧ IsFirstRun m v := by
  cases u with
  | nil => simp [isFirstRun_nil]
  | cons c u =>
    unfold IsFirstRun
    rw [List.map_cons, List.cons_prefix_cons]
    constructor
    · rintro ⟨rfl, h⟩
      exact Or.inr ⟨c, u, rfl, rfl, h⟩
    · rintro (h | ⟨d, v, rfl, h, hv⟩)
      · cases h
      · obtain ⟨rfl, rfl⟩ := List.cons.inj h
        exact ⟨rfl, hv⟩

theorem isRun_cons_iff {x : Option Char} : IsRun (x :: m) u ↔ IsFirstRun (x :: m) u ∨ IsRun m u :=
  List.infix_cons_iff

/-- What stands between two marks does not reach beyond a mark. -/
theorem isRun_none_cons_iff : IsRun (none :: m) u ↔ IsRun m u := by
  rw [isRun_cons_iff, isFirstRun_cons_iff]
  constructor
  · rintro ((rfl | ⟨c, v, h, -⟩) | h)
    · exact isFirstRun_nil.isRun
    · cases h
    · exact h
  · exact Or.inr

theorem isRun_map_some_iff : IsRun (t.map some) u ↔ u <:+: t := by
  constructor
  · intro h
    have h : textOf (u.map some) <:+: textOf (t.map some) := List.IsInfix.filterMap id h
    rwa [textOf_map_some, textOf_map_some] at h
  · exact fun h ↦ h.map some

theorem isRun_append_iff : IsRun (t.map some ++ none :: m) u ↔ u <:+: t ∨ IsRun m u := by
  unfold IsRun
  rw [List.infix_append_iff, ← IsRun, ← IsRun, ← IsRun, isRun_map_some_iff, isRun_none_cons_iff]
  constructor
  · rintro (h | h | ⟨front, back, hsplit, hfront, hback⟩)
    · exact Or.inl h
    · exact Or.inr h
    · cases back with
      | nil =>
        rw [List.append_nil] at hsplit
        rw [← hsplit] at hfront
        exact Or.inl (isRun_map_some_iff.mp hfront.isInfix)
      | cons x back =>
        obtain ⟨rfl, -⟩ := List.cons_prefix_cons.mp hback
        have hmem : none ∈ u.map some := hsplit ▸ List.mem_append_right _ List.mem_cons_self
        simp at hmem
  · exact fun h ↦ h.imp_right Or.inl

theorem IsFirstRun.isPrefix (h : IsFirstRun m u) : u <+: textOf m := by
  have h : textOf (u.map some) <+: textOf m := List.IsPrefix.filterMap id h
  rwa [textOf_map_some] at h

/-! ### Marks for removals -/

/-- A marked text without its first characters, with all of its marks. -/
def dropText : Nat → Marked → Marked
  | 0, m => m
  | _ + 1, [] => []
  | k + 1, none :: m => none :: dropText (k + 1) m
  | k + 1, some _ :: m => dropText k m

@[simp]
theorem dropText_zero (m : Marked) : dropText 0 m = m := by
  rw [dropText]

theorem dropText_nil (k : Nat) : dropText k [] = [] := by
  cases k <;> rw [dropText]

theorem dropText_none (k : Nat) (m : Marked) : dropText k (none :: m) = none :: dropText k m := by
  cases k with
  | zero => rw [dropText_zero, dropText_zero]
  | succ k => rw [dropText]

theorem dropText_some (hk : 0 < k) : dropText k (some c :: m) = dropText (k - 1) m := by
  cases k with
  | zero => cases hk
  | succ k => rw [dropText, Nat.add_sub_cancel]

theorem count_dropText (k : Nat) (m : Marked) : (dropText k m).count none = m.count none := by
  induction m generalizing k with
  | nil => rw [dropText_nil]
  | cons x m ih =>
    cases x with
    | none => rw [dropText_none, List.count_cons_self, List.count_cons_self, ih]
    | some c =>
      cases k with
      | zero => rw [dropText_zero]
      | succ k => rw [dropText, ih, List.count_cons_of_ne (by simp)]

/-- A marked text loses a construct that one of the rules finds somewhere in the text, and what is
left of this stands between two new marks. -/
def Marks (rs : List Rule) (r : Removal) (m m' : Marked) : Prop :=
  ∃ rule ∈ rs, ∃ front c behind e, m = front ++ some c :: behind ∧
    rule (textOf (some c :: behind)) = some e ∧ e.removal = some r ∧
    m' = front ++ none :: (e.replacement.map some ++ none :: dropText e.size (some c :: behind))

/-- A marked text loses one construct after the other, and nothing else. -/
inductive MarksAll (rs : List Rule) : List Removal → Marked → Marked → Prop where
  | nil (m : Marked) : MarksAll rs [] m m
  | cons {r : Removal} {removals : List Removal} {m m' m'' : Marked} (h : Marks rs r m m')
      (hrest : MarksAll rs removals m' m'') : MarksAll rs (r :: removals) m m''

theorem Marks.mono (hrs : rs ⊆ rs') (h : Marks rs r m m') : Marks rs' r m m' := by
  obtain ⟨rule, hrule, hfound⟩ := h
  exact ⟨rule, hrs hrule, hfound⟩

theorem MarksAll.mono (hrs : rs ⊆ rs') (h : MarksAll rs removals m m') :
    MarksAll rs' removals m m' := by
  induction h with
  | nil m => exact .nil m
  | cons h _ ih => exact .cons (h.mono hrs) ih

theorem MarksAll.append (h : MarksAll rs removals m m') (h' : MarksAll rs others m' m'') :
    MarksAll rs (removals ++ others) m m'' := by
  induction h with
  | nil m => exact h'
  | cons h _ ih => exact .cons h (ih h')

theorem Marks.count_none (h : Marks rs r m m') : m'.count none = m.count none + 2 := by
  obtain ⟨rule, -, front, c, behind, e, rfl, -, -, rfl⟩ := h
  simp only [List.count_append, List.count_cons_self, count_dropText, count_map_some]
  omega

/-- Two marks are left for each removal. -/
theorem MarksAll.count_none (h : MarksAll rs removals m m') :
    m'.count none = m.count none + 2 * removals.length := by
  induction h with
  | nil m => rfl
  | cons h _ ih =>
    rw [ih, h.count_none, List.length_cons]
    omega

/-! ### One rule -/

/-- The pass of a rule over a marked text, with the counter of `applyFrom`, which passes over what
is removed and copies what is kept. -/
def markFrom (rule : Rule) : Bool → Nat → Marked → Marked
  | _, _, [] => []
  | kept, k, none :: m => none :: markFrom rule kept k m
  | true, k + 1, some c :: m => some c :: markFrom rule true k m
  | false, k + 1, some _ :: m => markFrom rule false k m
  | _, 0, some c :: m =>
    match rule (c :: textOf m) with
    | none => some c :: markFrom rule false 0 m
    | some e =>
      if e.removal.isSome then
        none :: (e.replacement.map some ++ none :: markFrom rule false (e.size - 1) m)
      else some c :: markFrom rule true (e.size - 1) m

theorem markFrom_none : markFrom rule kept k (none :: m) = none :: markFrom rule kept k m := by
  cases kept <;> cases k <;> rfl

theorem markFrom_zero : markFrom rule kept 0 (some c :: m) =
    match rule (c :: textOf m) with
    | none => some c :: markFrom rule false 0 m
    | some e =>
      if e.removal.isSome then
        none :: (e.replacement.map some ++ none :: markFrom rule false (e.size - 1) m)
      else some c :: markFrom rule true (e.size - 1) m := by
  cases kept <;> rfl

/-- Without its marks, the pass is that of the rule. -/
theorem textOf_markFrom (hrule : IsCleaning rule) : textOf (markFrom rule kept k m) =
    (if kept then (textOf m).take k else []) ++ (applyFrom rule k (textOf m)).1 := by
  induction m generalizing kept k with
  | nil => simp [markFrom, applyFrom]
  | cons x m ih =>
    cases x with
    | none => rw [markFrom_none, textOf_none, ih, textOf_none]
    | some c =>
      cases k with
      | succ k => cases kept <;> simp [markFrom, applyFrom, ih]
      | zero =>
        rw [markFrom_zero, textOf_some, applyFrom]
        cases hedit : rule (c :: textOf m) with
        | none => simp [ih]
        | some e =>
          simp only
          cases hremoval : e.removal with
          | some removal => simp [ih]
          | none =>
            obtain ⟨hsize, hreplacement⟩ := hrule.kept hedit hremoval
            obtain ⟨n, hn⟩ := Nat.exists_eq_succ_of_ne_zero hsize.ne'
            simp [ih, hreplacement, hn]

/-- The pass marks the text behind some that it has passed over, construct by construct. -/
theorem marksAll_markFrom (hrule : IsAccounting rule) (hmem : rule ∈ rs) (front : Marked)
    (kept : Bool) (k : Nat) (m : Marked) : MarksAll rs (applyFrom rule k (textOf m)).2
      (front ++ if kept then m else dropText k m) (front ++ markFrom rule kept k m) := by
  induction m generalizing kept k front with
  | nil =>
    rw [dropText_nil, ite_self]
    cases kept <;> cases k <;> exact .nil _
  | cons x m ih =>
    -- What the pass copies goes in front.
    have hcopy (x : Option Char) (kept : Bool) (k : Nat) :
        MarksAll rs (applyFrom rule k (textOf m)).2
          (front ++ x :: if kept then m else dropText k m)
          (front ++ x :: markFrom rule kept k m) := by
      have hrest := ih (front ++ [x]) kept k
      rwa [List.append_assoc, List.append_assoc] at hrest
    cases x with
    | none =>
      have hmark := hcopy none kept k
      rw [markFrom_none, dropText_none]
      cases kept <;> exact hmark
    | some c =>
      cases k with
      | succ k =>
        cases kept with
        | true => exact hcopy (some c) true k
        | false => exact ih front false k
      | zero =>
        rw [markFrom_zero, textOf_some, applyFrom]
        rw [dropText_zero, ite_self]
        cases hedit : rule (c :: textOf m) with
        | none =>
          have hrest := hcopy (some c) false 0
          rwa [dropText_zero, ite_self] at hrest
        | some e =>
          cases hremoval : e.removal with
          | none =>
            simp only [hremoval]
            exact hcopy (some c) true (e.size - 1)
          | some r =>
            have hsize := (hrule.shortening hedit (hremoval ▸ rfl)).1
            have hrest := ih (front ++ none :: (e.replacement.map some ++ [none])) false (e.size - 1)
            simp only [hremoval]
            refine .cons ⟨rule, hmem, front, c, m, e, rfl, hedit, hremoval, rfl⟩ ?_
            rw [dropText_some (Nat.zero_lt_of_lt hsize)]
            simpa using hrest

/-- A character is copied, passed over, or the first of what is removed. -/
theorem markFrom_some_cases (rule : Rule) (kept : Bool) (k : Nat) (c : Char) (m : Marked) :
    (∃ kept' k', markFrom rule kept k (some c :: m) = some c :: markFrom rule kept' k' m ∧
      (kept' = true ∨ k' = 0) ∧
      (kept = false → IsRemoving rule → kept' = false ∧ rule (c :: textOf m) = none)) ∨
    (∃ k', markFrom rule kept k (some c :: m) = markFrom rule false k' m ∧
      kept = false ∧ k ≠ 0) ∨
    ∃ e k', markFrom rule kept k (some c :: m) =
      none :: (e.replacement.map some ++ none :: markFrom rule false k' m) ∧
      rule (c :: textOf m) = some e ∧ e.removal.isSome := by
  cases k with
  | succ k =>
    cases kept with
    | true => exact Or.inl ⟨true, k, rfl, Or.inl rfl, fun h ↦ by cases h⟩
    | false => exact Or.inr (Or.inl ⟨k, rfl, rfl, Nat.succ_ne_zero k⟩)
  | zero =>
    rw [markFrom_zero]
    cases hedit : rule (c :: textOf m) with
    | none => exact Or.inl ⟨false, 0, rfl, Or.inr rfl, fun _ _ ↦ ⟨rfl, rfl⟩⟩
    | some e =>
      by_cases hremoval : e.removal.isSome = true
      · exact Or.inr (Or.inr ⟨e, e.size - 1, if_pos hremoval, rfl, hremoval⟩)
      · exact Or.inl ⟨true, e.size - 1, if_neg hremoval, Or.inl rfl, fun _ hremoving ↦
          absurd (hremoving hedit) hremoval⟩

/-- What the pass writes in front of all marks, it has copied. -/
theorem isFirstRun_of_isFirstRun_markFrom (hcopies : kept = true ∨ k = 0)
    (h : IsFirstRun (markFrom rule kept k m) u) : IsFirstRun m u := by
  have hmarked {u : Text} {m m' : Marked} (h : IsFirstRun (none :: m) u) : IsFirstRun m' u := by
    rcases isFirstRun_cons_iff.mp h with rfl | ⟨c, v, hnone, -⟩
    · exact isFirstRun_nil
    · cases hnone
  induction m generalizing kept k u with
  | nil => cases kept <;> cases k <;> exact h
  | cons x m ih =>
    cases x with
    | none => exact hmarked (markFrom_none ▸ h)
    | some c =>
      rcases markFrom_some_cases rule kept k c m with ⟨kept', k', heq, hcopies, -⟩ |
        ⟨k', -, hkept, hk⟩ | ⟨e, k', heq, -⟩
      · rw [heq, isFirstRun_cons_iff] at h
        rw [isFirstRun_cons_iff]
        exact h.imp_right fun ⟨d, v, hd, hu, hv⟩ ↦ ⟨d, v, hd, hu, ih hcopies hv⟩
      · rcases hcopies with rfl | rfl
        · cases hkept
        · exact absurd rfl hk
      · exact hmarked (heq ▸ h)

theorem isFirstRun_cons_of_markFrom (hcopies : kept = true ∨ k = 0)
    (h : IsFirstRun (some c :: markFrom rule kept k m) u) : IsFirstRun (some c :: m) u := by
  rw [isFirstRun_cons_iff] at h ⊢
  exact h.imp_right fun ⟨d, v, hd, hu, hv⟩ ↦
    ⟨d, v, hd, hu, isFirstRun_of_isFirstRun_markFrom hcopies hv⟩

/-- What stands between two marks after the pass stood there before, or is part of what the rule
has written. -/
theorem isRun_of_isRun_markFrom (h : IsRun (markFrom rule kept k m) u) :
    IsRun m u ∨ ∃ t e, rule t = some e ∧ e.removal.isSome ∧ u <:+: e.replacement := by
  induction m generalizing kept k with
  | nil => cases kept <;> cases k <;> exact Or.inl h
  | cons x m ih =>
    cases x with
    | none =>
      rw [markFrom_none, isRun_none_cons_iff] at h
      exact (ih h).imp_left isRun_none_cons_iff.mpr
    | some c =>
      have hlater : IsRun m u → IsRun (some c :: m) u := fun h ↦ isRun_cons_iff.mpr (Or.inr h)
      rcases markFrom_some_cases rule kept k c m with ⟨kept', k', heq, hcopies, -⟩ |
        ⟨k', heq, -⟩ | ⟨e, k', heq, hedit, hremoval⟩
      · rw [heq, isRun_cons_iff] at h
        rcases h with h | h
        · exact Or.inl (isFirstRun_cons_of_markFrom hcopies h).isRun
        · exact (ih h).imp_left hlater
      · rw [heq] at h
        exact (ih h).imp_left hlater
      · rw [heq, isRun_none_cons_iff, isRun_append_iff] at h
        rcases h with h | h
        · exact Or.inr ⟨_, e, hedit, hremoval, h⟩
        · exact (ih h).imp_left hlater

/-- A rule finds nothing in what stands between two marks. -/
def IsFree (rule : Rule) (m : Marked) : Prop := ∀ ⦃u : Text⦄, IsRun m u → rule u = none

theorem IsRemoval.eq_none_of_edit (hother : IsRemoval other) (hrule : IsCleaning rule) {e : Edit}
    (hedit : rule t = some e) (hremoval : e.removal.isSome) (hu : u <:+: e.replacement) :
    other u = none := by
  rcases hrule.opening hedit hremoval with h | h
  · rw [h, List.infix_nil] at hu
    rw [hu]
    exact hother.nil
  · exact hother.harmless (h.isHarmless.of_infix hu)

/-- A rule that found nothing finds nothing after the pass of another one. -/
theorem IsFree.markFrom (h : IsFree other m) (hother : IsRemoval other) (hrule : IsCleaning rule) :
    IsFree other (markFrom rule kept k m) := by
  intro u hu
  rcases isRun_of_isRun_markFrom hu with hu | ⟨t, e, hedit, hremoval, hu⟩
  · exact h hu
  · exact hother.eq_none_of_edit hrule hedit hremoval hu

/-- A rule that removes finds nothing after its own pass. -/
theorem isFree_markFrom (hrule : IsRemoval rule) : IsFree rule (markFrom rule false k m) := by
  induction m generalizing k with
  | nil =>
    intro u hu
    have hu : u = [] := by
      cases k <;> simpa [Sanitize.markFrom, IsRun] using hu
    rw [hu]
    exact hrule.nil
  | cons x m ih =>
    cases x with
    | none =>
      intro u hu
      rw [markFrom_none, isRun_none_cons_iff] at hu
      exact ih hu
    | some c =>
      intro u hu
      rcases markFrom_some_cases rule false k c m with ⟨kept', k', heq, hcopies, hnone⟩ |
        ⟨k', heq, -⟩ | ⟨e, k', heq, hedit, hremoval⟩
      · obtain ⟨rfl, hrefused⟩ := hnone rfl hrule.removing
        rw [heq, isRun_cons_iff, isFirstRun_cons_iff] at hu
        rcases hu with (rfl | ⟨d, v, hd, rfl, hv⟩) | hu
        · exact hrule.nil
        · -- The rule refused here, with all of the text in view.
          obtain rfl := Option.some.inj hd
          have hseen := shows_of_prefix (isFirstRun_of_isFirstRun_markFrom hcopies hv).isPrefix
          rw [← Option.not_isSome_iff_eq_none]
          intro hsome
          have := hrule.isSome (.same c hseen) hsome
          rw [hrefused] at this
          cases this
        · exact ih hu
      · exact ih (heq ▸ hu)
      · rw [heq, isRun_none_cons_iff, isRun_append_iff] at hu
        rcases hu with hu | hu
        · exact hrule.eq_none_of_edit hrule.toIsCleaning hedit hremoval hu
        · exact ih hu

/-! ### All rules -/

/-- The passes of rules, one after the other. -/
def markRules (rs : List Rule) (m : Marked) : Marked :=
  rs.foldl (fun m rule ↦ markFrom rule false 0 m) m

theorem textOf_markRules (hrs : ∀ rule ∈ rs, IsCleaning rule) :
    textOf (markRules rs m) = (applyRules rs (textOf m)).1 := by
  induction rs generalizing m with
  | nil => rfl
  | cons rule rs ih =>
    have hrule := hrs rule List.mem_cons_self
    rw [applyRules, applyRule]
    simp only
    rw [markRules, List.foldl_cons, ← markRules, ih fun r hr ↦ hrs r (List.mem_cons_of_mem _ hr),
      textOf_markFrom hrule]
    rfl

theorem IsFree.markRules (h : IsFree other m) (hother : IsRemoval other)
    (hrs : ∀ rule ∈ rs, IsCleaning rule) : IsFree other (markRules rs m) := by
  induction rs generalizing m with
  | nil => exact h
  | cons rule rs ih =>
    exact ih (h.markFrom hother (hrs rule List.mem_cons_self)) fun r hr ↦
      hrs r (List.mem_cons_of_mem _ hr)

/-- After all passes, no rule that removes finds anything. -/
theorem isFree_markRules (hrs : ∀ rule ∈ rs, IsCleaning rule) (hmem : rule ∈ rs)
    (hrule : IsRemoval rule) : IsFree rule (markRules rs m) := by
  induction rs generalizing m with
  | nil => cases hmem
  | cons first rs ih =>
    have hlater : ∀ rule ∈ rs, IsCleaning rule := fun r hr ↦ hrs r (List.mem_cons_of_mem _ hr)
    rcases List.mem_cons.mp hmem with rfl | hmem
    · exact (isFree_markFrom hrule).markRules hrule hlater
    · exact ih hlater hmem

/-- After all passes, what stands between two marks stood there before, or is part of an opening. -/
theorem isRun_of_isRun_markRules (hrs : ∀ rule ∈ rs, IsCleaning rule)
    (h : IsRun (markRules rs m) u) : IsRun m u ∨ ∃ opening, IsOpening opening ∧ u <:+: opening := by
  induction rs generalizing m with
  | nil => exact Or.inl h
  | cons rule rs ih =>
    rcases ih (fun r hr ↦ hrs r (List.mem_cons_of_mem _ hr)) h with h | h
    · rcases isRun_of_isRun_markFrom h with h | ⟨t, e, hedit, hremoval, hu⟩
      · exact Or.inl h
      · rcases (hrs rule List.mem_cons_self).opening hedit hremoval with hnil | hopening
        · rw [hnil, List.infix_nil] at hu
          rw [hu]
          exact Or.inl isFirstRun_nil.isRun
        · exact Or.inr ⟨_, hopening, hu⟩
    · exact Or.inr h

/-- The passes mark a text construct by construct. -/
theorem marksAll_markRules (hrs : ∀ rule ∈ rs, IsAccounting rule) (m : Marked) :
    MarksAll rs (applyRules rs (textOf m)).2 m (markRules rs m) := by
  induction rs generalizing m with
  | nil => exact .nil m
  | cons rule rs ih =>
    rw [List.forall_mem_cons] at hrs
    have hfirst := marksAll_markFrom hrs.1 (List.mem_cons_self (l := rs)) [] false 0 m
    have hrest := ih hrs.2 (markFrom rule false 0 m)
    rw [textOf_markFrom hrs.1.toIsCleaning] at hrest
    rw [dropText_zero, ite_self] at hfirst
    exact hfirst.append (hrest.mono (List.subset_cons_self rule rs))

/-- A text as rules leave it, with a mark on either side of what is left of each construct that has
been removed. -/
def marked (rs : List Rule) (t : Text) : Marked := markRules rs (t.map some)

theorem marksAll_marked (hrs : ∀ rule ∈ rs, IsAccounting rule) (t : Text) :
    MarksAll rs (applyRules rs t).2 (t.map some) (marked rs t) := by
  have hmarks := marksAll_markRules hrs (t.map some)
  rwa [textOf_map_some] at hmarks

theorem textOf_marked (hrs : ∀ rule ∈ rs, IsCleaning rule) (t : Text) :
    textOf (marked rs t) = (applyRules rs t).1 := by
  rw [marked, textOf_markRules hrs, textOf_map_some]

theorem count_marked (hrs : ∀ rule ∈ rs, IsAccounting rule) (t : Text) :
    (marked rs t).count none = 2 * (applyRules rs t).2.length := by
  rw [(marksAll_marked hrs t).count_none, count_map_some, Nat.zero_add]

/-! ### Braces -/

/-- A marked text with backslashes before some of its braces. -/
inductive Escapes : Marked → Marked → Prop where
  | nil : Escapes [] []
  | same (x : Option Char) {m m' : Marked} : Escapes m m' → Escapes (x :: m) (x :: m')
  | escape {c : Char} {m m' : Marked} : isBrace c → Escapes (some c :: m) m' →
      Escapes (some c :: m) (some '\\' :: m')

theorem Escapes.trans (h : Escapes m m') (h' : Escapes m' m'') : Escapes m m'' := by
  induction h' generalizing m with
  | nil => exact h
  | same x _ ih =>
    cases h with
    | same _ h => exact .same x (ih h)
    | escape hc h => exact .escape hc (ih h)
  | escape hc _ ih =>
    have hrest := ih h
    cases h with
    | same => exact .escape hc hrest
    | escape => cases hc

theorem Escapes.count_eq (h : Escapes m m') : m'.count none = m.count none := by
  induction h with
  | nil => rfl
  | same x _ ih => rw [List.count_cons, List.count_cons, ih]
  | escape _ _ ih => rw [List.count_cons_of_ne (by simp), ih]

theorem Escapes.replicate (h : Escapes m m') (n : Nat) :
    Escapes (List.replicate n none ++ m) (List.replicate n none ++ m') := by
  induction n with
  | zero => exact h
  | succ n ih => exact .same none ih

/-- What stands between two marks of the escaped text is what is seen of a text that stood between
two marks before. -/
theorem Escapes.exists_isFirstRun (h : Escapes m m') (hu : IsFirstRun m' u) :
    ∃ v, IsFirstRun m v ∧ Shows v u := by
  induction h generalizing u with
  | nil => exact ⟨u, hu, shows_of_prefix List.prefix_rfl⟩
  | same x _ ih =>
    rcases isFirstRun_cons_iff.mp hu with rfl | ⟨c, rest, rfl, rfl, hrest⟩
    · exact ⟨[], isFirstRun_nil, .done _⟩
    · obtain ⟨v, hv, hshows⟩ := ih hrest
      exact ⟨c :: v, isFirstRun_cons_iff.mpr (Or.inr ⟨c, v, rfl, rfl, hv⟩), .same c hshows⟩
  | @escape c m m' hc _ ih =>
    rcases isFirstRun_cons_iff.mp hu with rfl | ⟨d, rest, hd, rfl, hrest⟩
    · exact ⟨[], isFirstRun_nil, .done _⟩
    · obtain rfl := Option.some.inj hd
      obtain ⟨v, hv, hshows⟩ := ih hrest
      rcases isFirstRun_cons_iff.mp hv with rfl | ⟨b, w, hb, rfl, hw⟩
      · -- The run ends at the backslash, of which the brace is the reason.
        cases hshows
        exact ⟨[c], isFirstRun_cons_iff.mpr (Or.inr ⟨c, [], rfl, rfl, isFirstRun_nil⟩),
          .escape hc (.done _)⟩
      · obtain rfl := Option.some.inj hb
        exact ⟨_, hv, .escape hc hshows⟩

theorem Escapes.exists_isRun (h : Escapes m m') (hu : IsRun m' u) :
    ∃ v, IsRun m v ∧ Shows v u := by
  induction h with
  | nil => exact ⟨u, hu, shows_of_prefix List.prefix_rfl⟩
  | same x h ih =>
    rcases isRun_cons_iff.mp hu with hu | hu
    · obtain ⟨v, hv, hshows⟩ := (Escapes.same x h).exists_isFirstRun hu
      exact ⟨v, hv.isRun, hshows⟩
    · obtain ⟨v, hv, hshows⟩ := ih hu
      exact ⟨v, isRun_cons_iff.mpr (Or.inr hv), hshows⟩
  | escape hc h ih =>
    rcases isRun_cons_iff.mp hu with hu | hu
    · obtain ⟨v, hv, hshows⟩ := (Escapes.escape hc h).exists_isFirstRun hu
      exact ⟨v, hv.isRun, hshows⟩
    · exact ih hu

theorem exists_of_textOf_eq_cons (h : textOf m = c :: t) :
    ∃ n rest, m = List.replicate n none ++ some c :: rest ∧ textOf rest = t := by
  induction m with
  | nil => cases h
  | cons x m ih =>
    cases x with
    | none =>
      obtain ⟨n, rest, rfl, hrest⟩ := ih h
      exact ⟨n + 1, rest, rfl, hrest⟩
    | some d =>
      obtain ⟨rfl, hrest⟩ := List.cons.inj h
      exact ⟨0, m, rfl, hrest⟩

theorem textOf_replicate (n : Nat) : textOf (List.replicate n none ++ m) = textOf m := by
  rw [textOf_append]
  exact congrArg (· ++ textOf m) List.reduceOption_replicate_none

/-- Escaping a pair of braces wherever it occurs puts backslashes before some braces. -/
theorem exists_escapes_replace (hc : isBrace c) (m : Marked) : ∃ m', Escapes m m' ∧
    textOf m' = Text.replace [c, c] ['\\', c, '\\', c] (textOf m) := by
  unfold Text.replace
  induction hlength : m.length using Nat.strong_induction_on generalizing m with
  | _ n ih =>
    cases m with
    | nil => exact ⟨[], .nil, rfl⟩
    | cons x m =>
      obtain ⟨m', hescapes, htext⟩ := ih m.length (by simp [← hlength]) m rfl
      cases x with
      | none => exact ⟨none :: m', .same none hescapes, htext⟩
      | some d =>
        rw [textOf_some, Text.replaceFrom]
        by_cases hstart : Text.startsWith [c, c] (d :: textOf m) = true
        · obtain ⟨rest, hrest⟩ := List.isPrefixOf_iff_prefix.mp hstart
          obtain ⟨rfl, hpair⟩ := List.cons.inj hrest
          obtain ⟨k, later, rfl, hlater⟩ := exists_of_textOf_eq_cons hpair.symm
          obtain ⟨m', hescapes, htext⟩ := ih later.length (by simp [← hlength]; omega) later rfl
          refine ⟨some '\\' :: some c :: (List.replicate k none ++ some '\\' :: some c :: m'),
            .escape hc (.same _ (Escapes.replicate (.escape hc (.same _ hescapes)) k)), ?_⟩
          rw [if_pos hstart, ← hpair, textOf_some, textOf_some, textOf_replicate, textOf_some,
            textOf_some, htext, hlater]
          rfl
        · rw [if_neg hstart]
          exact ⟨some d :: m', .same _ hescapes, congrArg (d :: ·) htext⟩

theorem exists_escapes_escapeBraces (m : Marked) :
    ∃ m', Escapes m m' ∧ textOf m' = escapeBraces (textOf m) := by
  obtain ⟨m', hopen, htext⟩ := exists_escapes_replace (c := '\x7b') rfl m
  obtain ⟨m'', hclose, htext'⟩ := exists_escapes_replace (c := '\x7d') rfl m'
  exact ⟨m'', hopen.trans hclose, by rw [htext', htext]; rfl⟩

/-! ### Cleaned texts -/

/-- Whatever a rule still finds in a text reaches across a mark. What stands between two marks was
there before or is part of an opening. -/
structure IsClean (t : Text) (m : Marked) : Prop where
  across : ∀ ⦃x : Marked⦄, x <:+: m → ∀ rule ∈ removalRules, (rule (textOf x)).isSome → none ∈ x
  origin : ∀ ⦃u : Text⦄, IsRun m u → ∃ v, Shows v u ∧
    (v <:+: t ∨ ∃ opening, IsOpening opening ∧ v <:+: opening)

theorem sanitize_eq (hosts : List Text) (t : Text) : sanitize hosts t =
    (escapeBraces (applyRules (rules hosts) (t.filter (· != '\x00'))).1,
      (applyRules (rules hosts) (t.filter (· != '\x00'))).2) := by
  rw [sanitize, clean]

/-- The marks stay where they are when braces are escaped. -/
theorem exists_escapes_marked (hrs : ∀ rule ∈ rs, IsAccounting rule) (t : Text) : ∃ m : Marked,
    Escapes (marked rs t) m ∧ textOf m = escapeBraces (applyRules rs t).1 ∧
      m.count none = 2 * (applyRules rs t).2.length := by
  obtain ⟨m, hescapes, htext⟩ := exists_escapes_escapeBraces (marked rs t)
  rw [textOf_marked fun rule hrule ↦ (hrs rule hrule).toIsCleaning] at htext
  exact ⟨m, hescapes, htext, hescapes.count_eq.trans (count_marked hrs t)⟩

/-- Between the marks that cleaning leaves no rule finds anything, also when braces are escaped. -/
theorem isClean_of_escapes {hosts : List Text} (h : Escapes (marked (rules hosts) t) m) :
    IsClean t m := by
  have hrules : ∀ rule ∈ rules hosts, IsCleaning rule := fun _ h ↦ isCleaning_of_mem_rules h
  have hmem : ∀ rule ∈ removalRules, rule ∈ rules hosts := by
    intro rule hrule
    rw [rules_eq_append, List.mem_append, List.mem_cons]
    exact (List.mem_append.mp hrule).imp_right Or.inr
  refine ⟨fun x hx rule hrule hsome ↦ by_contra fun hnone ↦ ?_, fun u hu ↦ ?_⟩
  · have hrun : IsRun m (textOf x) := by rwa [IsRun, map_some_textOf hnone]
    obtain ⟨v, hv, hshows⟩ := h.exists_isRun hrun
    have hremoval := isRemoval_of_mem hrule
    have hfound := hremoval.isSome hshows hsome
    rw [isFree_markRules hrules (hmem rule hrule) hremoval hv] at hfound
    cases hfound
  · obtain ⟨v, hv, hshows⟩ := h.exists_isRun hu
    exact ⟨v, hshows, (isRun_of_isRun_markRules hrules hv).imp_left isRun_map_some_iff.mp⟩

/-- **What cleaning leaves.** The text loses one construct after the other, each of which a rule has
found and is accounted for, and on either side of what is left of it a mark is put. The cleaned text
is the text with these marks, with backslashes before some braces. Whatever a rule would still
remove from it reaches across a mark; and between two marks nothing stands but a part of the text or
of the opening of an attribute. -/
theorem sanitize_marked (hosts : List Text) (t : Text) :
    MarksAll (rules hosts) (sanitize hosts t).2 ((t.filter (· != '\x00')).map some)
      (marked (rules hosts) (t.filter (· != '\x00'))) ∧
    ∃ m, Escapes (marked (rules hosts) (t.filter (· != '\x00'))) m ∧
      textOf m = (sanitize hosts t).1 ∧ m.count none = 2 * (sanitize hosts t).2.length ∧
      IsClean (t.filter (· != '\x00')) m := by
  have hrules : ∀ rule ∈ rules hosts, IsAccounting rule := fun _ ↦ isAccounting_of_mem_rules
  obtain ⟨m, hescapes, htext, hcount⟩ := exists_escapes_marked hrules (t.filter (· != '\x00'))
  rw [sanitize_eq]
  simp only
  exact ⟨marksAll_marked hrules _, m, hescapes, htext, hcount, isClean_of_escapes hescapes⟩

/-- A text from which nothing has been removed holds nothing that a rule would remove. -/
theorem sanitize_of_no_removals {hosts : List Text} (h : (sanitize hosts t).2 = [])
    (hrule : rule ∈ removalRules) (hs : s <:+: (sanitize hosts t).1) : rule s = none := by
  have hrules : ∀ rule ∈ rules hosts, IsAccounting rule := fun _ ↦ isAccounting_of_mem_rules
  obtain ⟨m, hescapes, htext, hcount⟩ := exists_escapes_marked hrules (t.filter (· != '\x00'))
  rw [sanitize_eq] at h hs
  simp only at h hs
  rw [h] at hcount
  have hm : (textOf m).map some = m := map_some_textOf (List.count_eq_zero.mp hcount)
  have hpart : s.map some <:+: m := by
    rw [← hm, htext]
    exact hs.map some
  rw [← Option.not_isSome_iff_eq_none, ← textOf_map_some (t := s)]
  intro hsome
  have hmark := (isClean_of_escapes hescapes).across hpart rule hrule hsome
  simp at hmark

/-- A tag comes into being where an element is removed from within it. -/
theorem sanitize_tag_within_tag :
    sanitize [] "a<scr<script></script>ipt>alert(1)</script>b" =
      (("a<script>alert(1)</script>b" : Text), [Removal.element "script"]) ∧
    (element "script" "<script>alert(1)</script>b").isSome := by
  decide

end ApiSite.Sanitize
