import ApiSite.Sanitize
import Mathlib.Data.List.Infix

/-!
# Braces after escaping

A template evaluates what stands between two pairs of braces, so that pairs are written with a
backslash before each of their braces. The pairs of a run of braces are found from left to right
and do not overlap. In a run of odd length the last brace is in no pair and is copied: it stands
right behind the second brace of the last pair, and the two are a pair again.

`braces_left` says that this is all that is left. A doubled brace is in an escaped text exactly if
the text has a run of that brace with an odd length of at least three, and every doubled brace of
the escaped text stands behind a backslash. A cleaned text is an escaped one.

The pairs are found by a recursion with three cases: the end of the text, a pair, and a character
that begins no pair (`pairsInduction`). What is true of one pass follows it case by case. The passes
for the two braces commute (`escapePairs_comm`), so each of them can be taken for the last one.
-/

set_option autoImplicit false

namespace ApiSite.Sanitize

variable {c d x : Char} {s t : Text}

/-! ### One pass -/

/-- A text with a backslash before each brace of a pair. -/
def escapePairs (c : Char) (t : Text) : Text := Text.replace [c, c] ['\\', c, '\\', c] t

theorem escapeBraces_eq (t : Text) :
    escapeBraces t = escapePairs '\x7d' (escapePairs '\x7b' t) := rfl

@[simp]
theorem escapePairs_nil : escapePairs c [] = [] := rfl

theorem escapePairs_pair :
    escapePairs c (c :: c :: t) = '\\' :: c :: '\\' :: c :: escapePairs c t := by
  rw [escapePairs, Text.replace, Text.replaceFrom, if_pos (by simp [Text.startsWith])]
  rfl

theorem escapePairs_cons (h : d = c → t.head? ≠ some c) :
    escapePairs c (d :: t) = d :: escapePairs c t := by
  rw [escapePairs, Text.replace, Text.replaceFrom, if_neg]
  · rfl
  · rw [Text.startsWith, List.isPrefixOf_iff_prefix]
    rintro ⟨rest, hrest⟩
    obtain ⟨rfl, rfl⟩ := List.cons.inj hrest
    exact h rfl rfl

theorem escapePairs_cons_of_ne (h : d ≠ c) : escapePairs c (d :: t) = d :: escapePairs c t :=
  escapePairs_cons fun hd ↦ absurd hd h

/-- The cases in which a text is gone through where characters of a class are found in pairs. -/
@[elab_as_elim]
theorem pairsInduction {motive : Text → Prop} (p : Char → Prop) (nil : motive [])
    (pair : ∀ c t, p c → motive t → motive (c :: c :: t))
    (cons : ∀ d t, (p d → t.head? ≠ some d) → motive t → motive (d :: t)) (t : Text) :
    motive t := by
  induction hlength : t.length using Nat.strong_induction_on generalizing t with
  | _ n ih =>
    match t with
    | [] => exact nil
    | d :: t =>
      by_cases h : p d → t.head? ≠ some d
      · exact cons d t h (ih t.length (by simp [← hlength]) t rfl)
      · push Not at h
        obtain ⟨hd, hhead⟩ := h
        obtain ⟨rest, rfl⟩ := List.head?_eq_some_iff.mp hhead
        have hshorter : rest.length < n := by
          rw [← hlength, List.length_cons, List.length_cons]
          omega
        exact pair d rest hd (ih rest.length hshorter rest rfl)

/-- A brace begins a text after the pass if a single one began it before. -/
theorem head?_escapePairs_eq_iff (hc : c ≠ '\\') : (escapePairs c t).head? = some c ↔
    t.head? = some c ∧ t.tail.head? ≠ some c := by
  induction t using pairsInduction (· = c) with
  | nil => simp
  | pair a t ha =>
    subst ha
    simp [escapePairs_pair, hc.symm]
  | cons a t h =>
    rw [escapePairs_cons fun ha ↦ ha ▸ h ha]
    simp only [List.head?_cons, List.tail_cons, Option.some_inj]
    exact ⟨fun ha ↦ ⟨ha, ha ▸ h ha⟩, And.left⟩

/-- Any other character begins the text after the pass if it did before. -/
theorem head?_escapePairs_of_ne (hx : x ≠ '\\') (hxc : x ≠ c) :
    (escapePairs c t).head? = some x ↔ t.head? = some x := by
  induction t using pairsInduction (· = c) with
  | nil => rfl
  | pair a t ha =>
    subst ha
    simp [escapePairs_pair, hx.symm, hxc.symm]
  | cons a t h => rw [escapePairs_cons fun ha ↦ ha ▸ h ha, List.head?_cons, List.head?_cons]

/-- A pass goes through the escaped pairs of another brace. -/
theorem escapePairs_escaped (hc : c ≠ '\\') (hdc : d ≠ c) :
    escapePairs c ('\\' :: d :: '\\' :: d :: t) = '\\' :: d :: '\\' :: d :: escapePairs c t := by
  rw [escapePairs_cons_of_ne hc.symm, escapePairs_cons_of_ne hdc, escapePairs_cons_of_ne hc.symm,
    escapePairs_cons_of_ne hdc]

/-- The passes for two braces commute. -/
theorem escapePairs_comm (hc : c ≠ '\\') (hd : d ≠ '\\') (hcd : c ≠ d) (t : Text) :
    escapePairs c (escapePairs d t) = escapePairs d (escapePairs c t) := by
  induction t using pairsInduction (fun x ↦ x = c ∨ x = d) with
  | nil => rfl
  | pair x t hx ih =>
    rcases hx with rfl | rfl
    · rw [escapePairs_cons_of_ne hcd, escapePairs_cons_of_ne hcd, escapePairs_pair,
        escapePairs_pair, escapePairs_escaped hd hcd, ih]
    · rw [escapePairs_cons_of_ne hcd.symm, escapePairs_cons_of_ne hcd.symm, escapePairs_pair,
        escapePairs_pair, escapePairs_escaped hc hcd.symm, ih]
  | cons x t h ih =>
    have hxc : x = c → t.head? ≠ some c := by
      rintro rfl
      exact h (Or.inl rfl)
    have hxd : x = d → t.head? ≠ some d := by
      rintro rfl
      exact h (Or.inr rfl)
    rw [escapePairs_cons hxc, escapePairs_cons hxd,
      escapePairs_cons fun hx ↦ mt (head?_escapePairs_of_ne hc hcd).mp (hxc hx),
      escapePairs_cons fun hx ↦ mt (head?_escapePairs_of_ne hd hcd.symm).mp (hxd hx), ih]

/-! ### Doubled braces -/

/-- A doubled brace stands in front of a text, or in what follows. -/
theorem pair_infix_cons_iff : [c, c] <:+: d :: t ↔
    (d = c ∧ t.head? = some c) ∨ [c, c] <:+: t := by
  have hhead : [c] <+: t ↔ t.head? = some c := by
    cases t with
    | nil => simp
    | cons a t => simp [eq_comm]
  rw [List.infix_cons_iff, List.cons_prefix_cons, hhead, eq_comm]

theorem pair_infix_cons_of_ne (h : d ≠ c) : [c, c] <:+: d :: t ↔ [c, c] <:+: t :=
  pair_infix_cons_iff.trans (or_iff_right fun hd ↦ h hd.1)

/-- A pass makes and breaks no pair of another character. -/
theorem pair_infix_escapePairs_of_ne (hc : c ≠ '\\') (hcd : c ≠ d) :
    [c, c] <:+: escapePairs d t ↔ [c, c] <:+: t := by
  induction t using pairsInduction (· = d) with
  | nil => rfl
  | pair a t ha ih =>
    subst ha
    rw [escapePairs_pair, pair_infix_cons_of_ne hc.symm, pair_infix_cons_of_ne hcd.symm,
      pair_infix_cons_of_ne hc.symm, pair_infix_cons_of_ne hcd.symm, ih,
      pair_infix_cons_of_ne hcd.symm, pair_infix_cons_of_ne hcd.symm]
  | cons a t h ih =>
    rw [escapePairs_cons fun ha ↦ ha ▸ h ha, pair_infix_cons_iff, pair_infix_cons_iff,
      head?_escapePairs_of_ne hc hcd, ih]

/-- A run of odd length that holds a pair. -/
def HasOddRun (c : Char) (t : Text) : Prop :=
  ∃ before k after, t = before ++ (List.replicate (2 * k + 3) c ++ after) ∧
    before.getLast? ≠ some c ∧ after.head? ≠ some c

theorem not_hasOddRun_nil : ¬HasOddRun c [] := by
  rintro ⟨before, k, after, h, -⟩
  simpa [List.replicate_succ] using congrArg List.length h

theorem hasOddRun_cons_iff (h : d = c → t.head? ≠ some c) :
    HasOddRun c (d :: t) ↔ HasOddRun c t := by
  constructor
  · rintro ⟨before, k, after, heq, hbefore, hafter⟩
    cases before with
    | nil =>
      obtain ⟨rfl, rfl⟩ := List.cons.inj heq
      exact absurd rfl (h rfl)
    | cons b before =>
      obtain ⟨rfl, rfl⟩ := List.cons.inj heq
      cases before with
      | nil => exact ⟨[], k, after, rfl, by simp, hafter⟩
      | cons b' before => exact ⟨_, k, after, rfl, by simpa using hbefore, hafter⟩
  · rintro ⟨before, k, after, rfl, hbefore, hafter⟩
    cases before with
    | nil =>
      have hd : d ≠ c := fun hd ↦ h hd rfl
      exact ⟨[d], k, after, rfl, by simpa using hd, hafter⟩
    | cons b before => exact ⟨d :: b :: before, k, after, rfl, by simpa using hbefore, hafter⟩

theorem hasOddRun_pair_iff : HasOddRun c (c :: c :: t) ↔
    (t.head? = some c ∧ t.tail.head? ≠ some c) ∨ HasOddRun c t := by
  constructor
  · rintro ⟨before, k, after, heq, hbefore, hafter⟩
    match before with
    | [] =>
      have ht : t = List.replicate (2 * k + 1) c ++ after :=
        (List.cons.inj (List.cons.inj heq).2).2
      cases k with
      | zero =>
        subst ht
        exact Or.inl ⟨rfl, hafter⟩
      | succ k => exact Or.inr ⟨[], k, after, ht, by simp, hafter⟩
    | [b] =>
      obtain ⟨rfl, -⟩ := List.cons.inj heq
      exact absurd rfl hbefore
    | b :: b' :: before =>
      have heq' := (List.cons.inj heq).2
      obtain ⟨rfl, rfl⟩ := List.cons.inj heq'
      cases before with
      | nil => exact absurd rfl hbefore
      | cons a before => exact Or.inr ⟨_, k, after, rfl, by simpa using hbefore, hafter⟩
  · rintro (⟨hhead, htail⟩ | ⟨before, k, after, rfl, hbefore, hafter⟩)
    · obtain ⟨rest, rfl⟩ := List.head?_eq_some_iff.mp hhead
      exact ⟨[], 0, rest, rfl, by simp, htail⟩
    · cases before with
      | nil => exact ⟨[], k + 1, after, rfl, by simp, hafter⟩
      | cons b before =>
        exact ⟨c :: c :: b :: before, k, after, rfl, by simpa using hbefore, hafter⟩

/-- The pass for a brace leaves a pair where the last brace of a run is copied. -/
theorem pair_infix_escapePairs_iff (hc : c ≠ '\\') :
    [c, c] <:+: escapePairs c t ↔ HasOddRun c t := by
  induction t using pairsInduction (· = c) with
  | nil => simp [not_hasOddRun_nil]
  | pair a t ha ih =>
    subst ha
    rw [escapePairs_pair, pair_infix_cons_of_ne hc.symm, pair_infix_cons_iff,
      pair_infix_cons_of_ne hc.symm, pair_infix_cons_iff, head?_escapePairs_eq_iff hc, ih,
      hasOddRun_pair_iff]
    simp [hc.symm]
  | cons a t h ih =>
    have ha : a = c → t.head? ≠ some c := fun ha ↦ ha ▸ h ha
    rw [escapePairs_cons ha, pair_infix_cons_iff, head?_escapePairs_eq_iff hc, ih,
      hasOddRun_cons_iff ha]
    exact or_iff_right fun hboth ↦ ha hboth.1 hboth.2.1

theorem not_pair_prefix_escapePairs (hc : c ≠ '\\') : ¬[c, c] <+: escapePairs c t := by
  induction t using pairsInduction (· = c) with
  | nil => simp
  | pair a t ha =>
    subst ha
    simp [escapePairs_pair, hc]
  | cons a t h =>
    rw [escapePairs_cons fun ha ↦ ha ▸ h ha, List.cons_prefix_cons]
    rintro ⟨rfl, hrest⟩
    obtain ⟨rest, hrest⟩ := hrest
    have hhead : (escapePairs c t).head? = some c := by rw [← hrest]; rfl
    exact h rfl ((head?_escapePairs_eq_iff hc).mp hhead).1

/-- A pair that the pass for a brace leaves stands behind a backslash. -/
theorem eq_of_infix_escapePairs (hc : c ≠ '\\') (h : [x, c, c] <:+: escapePairs c t) :
    x = '\\' := by
  induction t using pairsInduction (· = c) with
  | nil => simp at h
  | pair a t ha ih =>
    subst ha
    rw [escapePairs_pair] at h
    simp only [List.infix_cons_iff, List.cons_prefix_cons, hc, false_and, and_false,
      false_or, not_pair_prefix_escapePairs hc] at h
    -- Of the four characters only the second backslash can stand in front of a pair.
    exact h.elim And.left ih
  | cons a t ha ih =>
    rw [escapePairs_cons fun h ↦ h ▸ ha h, List.infix_cons_iff, List.cons_prefix_cons] at h
    exact ih (h.resolve_left fun hfront ↦ not_pair_prefix_escapePairs hc hfront.2)

/-! ### Escaped texts -/

/-- What is left of the pairs of a brace: there is one exactly if the text had a run of odd length,
and each stands behind a backslash. -/
structure LeavesPairs (c : Char) (t escaped : Text) : Prop where
  pair_infix_iff : [c, c] <:+: escaped ↔ HasOddRun c t
  not_pair_prefix : ¬[c, c] <+: escaped
  eq_of_infix : ∀ ⦃x : Char⦄, [x, c, c] <:+: escaped → x = '\\'

/-- The pass for another brace may come before or after. -/
theorem leavesPairs (hc : c ≠ '\\') (hd : d ≠ '\\') (hcd : c ≠ d) (t : Text) :
    LeavesPairs c t (escapePairs c (escapePairs d t)) := by
  refine ⟨?_, not_pair_prefix_escapePairs hc, fun _ ↦ eq_of_infix_escapePairs hc⟩
  rw [escapePairs_comm hc hd hcd, pair_infix_escapePairs_of_ne hc hcd,
    pair_infix_escapePairs_iff hc]

/-- What is left of the pairs of both braces. -/
def LeavesBraces (t escaped : Text) : Prop :=
  LeavesPairs '\x7b' t escaped ∧ LeavesPairs '\x7d' t escaped

theorem leavesBraces_escapeBraces (t : Text) : LeavesBraces t (escapeBraces t) := by
  have hopening : '\x7b' ≠ '\\' := by decide
  have hclosing : '\x7d' ≠ '\\' := by decide
  have hne : '\x7b' ≠ '\x7d' := by decide
  rw [escapeBraces_eq]
  refine ⟨?_, leavesPairs hclosing hopening hne.symm t⟩
  rw [← escapePairs_comm hopening hclosing hne]
  exact leavesPairs hopening hclosing hne t

/-- **The braces that escaping leaves.** After escaping a brace is doubled exactly if the text had a
run of it with an odd length of at least three, and then behind a backslash. What comes out of
cleaning is escaped in this way. -/
theorem braces_left (hosts : List Text) (t : Text) : LeavesBraces t (escapeBraces t) ∧
    LeavesBraces (clean hosts t).1 (sanitize hosts t).1 := by
  have hsanitize : (sanitize hosts t).1 = escapeBraces (clean hosts t).1 := by rw [sanitize]
  rw [hsanitize]
  exact ⟨leavesBraces_escapeBraces t, leavesBraces_escapeBraces _⟩

example : escapeBraces ("\x7b\x7b\x7b" : Text) = ("\\\x7b\\\x7b\x7b" : Text) := by decide

end ApiSite.Sanitize
