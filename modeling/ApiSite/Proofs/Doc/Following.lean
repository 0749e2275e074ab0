import ApiSite.Text.Substitute
import Mathlib.Data.List.Basic
import Mathlib.Data.List.Infix

/-!
# Following code through replacements

A replacement goes through a text from left to right and knows nothing of the code in it. To say
what it does to the code, each character is given the number of the code that it belongs to, and
the replacement is written down as steps: a character is kept, or some characters give way to
others (`steps`). Of what a rule replaces, only the part between the common beginning and the common
end counts as changed, so that a link whose target is rewritten keeps the code in its label.

Code is intact if the characters of each code still stand together (`Intact`). A replacement leaves
it intact just if it takes no character out of a code and puts nothing into one
(`intact_after_iff`), and a sequence of replacements does so just if each of them does, on the text
that the ones before it have left (`keepsCode_iff`).
-/

set_option autoImplicit false

namespace ApiSite.Doc

/-- A character, with the number of the code that it belongs to, if it belongs to one. -/
abbrev Cell := Char × Option Nat

/-- The characters of cells. -/
def spelled (s : List Cell) : Text := s.map Prod.fst

/-- The cells of the code with a number. -/
def codeOf (i : Nat) (s : List Cell) : List Cell := s.filter (·.2 == some i)

/-- The cells of each code of the first text stand together in the second. -/
def Intact (s s' : List Cell) : Prop := ∀ i, codeOf i s <:+: s'

/-- What a replacement does at one place. -/
inductive Step where
  | kept (x : Cell)
  | changed (removed : List Cell) (inserted : Text)

/-- The cells that a step has gone over. -/
def Step.before : Step → List Cell
  | kept x => [x]
  | changed removed _ => removed

/-- What a step has left: what is put in belongs to no code. -/
def Step.after : Step → List Cell
  | kept x => [x]
  | changed _ inserted => inserted.map (·, none)

/-- The text before some steps. -/
def before (l : List Step) : List Cell := l.flatMap Step.before

/-- The text after some steps. -/
def after (l : List Step) : List Cell := l.flatMap Step.after

/-- The cells in front that spell the beginning of a text, and what is left of both. -/
def commonFront : List Cell → Text → List Cell × List Cell × Text
  | x :: s, c :: t =>
    if x.1 = c then
      let (front, s, t) := commonFront s t
      (x :: front, s, t)
    else ([], x :: s, c :: t)
  | s, t => ([], s, t)

/-- The steps from cells to the text that replaces them: what is common at both ends is kept. -/
def revision (taken : List Cell) (t : Text) : List Step :=
  let (front, s, t) := commonFront taken t
  let (back, removed, inserted) := commonFront s.reverse t.reverse
  front.map .kept ++ .changed removed.reverse inserted.reverse :: back.reverse.map .kept

/-- The steps of a rule through a text, with the counter of `Text.substituteFrom`. -/
def stepsFrom (rule : Text.Rule) : Nat → List Cell → List Step
  | _, [] => []
  | k + 1, _ :: s => stepsFrom rule k s
  | 0, x :: s =>
    match rule (spelled (x :: s)) with
    | some (size, t) => revision (x :: s.take (size - 1)) t ++ stepsFrom rule (size - 1) s
    | none => .kept x :: stepsFrom rule 0 s

/-- The steps of a rule through a text. -/
def steps (rule : Text.Rule) (s : List Cell) : List Step := stepsFrom rule 0 s

variable {i : Nat} {s s' u v : List Cell} {x y : Cell} {t : Text} {l : List Step} {rule : Text.Rule}
  {rules : List Text.Rule}

/-! ### Steps -/

@[simp]
theorem spelled_append : spelled (s ++ s') = spelled s ++ spelled s' := List.map_append

@[simp]
theorem spelled_map_none : spelled (t.map (·, none)) = t := by
  rw [spelled, List.map_map]
  exact List.map_id t

@[simp]
theorem spelled_map_some : spelled (t.map (·, some i)) = t := by
  rw [spelled, List.map_map]
  exact List.map_id t

@[simp]
theorem before_append {l l' : List Step} : before (l ++ l') = before l ++ before l' :=
  List.flatMap_append

@[simp]
theorem after_append {l l' : List Step} : after (l ++ l') = after l ++ after l' :=
  List.flatMap_append

@[simp]
theorem before_cons {step : Step} : before (step :: l) = step.before ++ before l := rfl

@[simp]
theorem after_cons {step : Step} : after (step :: l) = step.after ++ after l := rfl

@[simp]
theorem before_map_kept : before (s.map .kept) = s := by
  induction s with
  | nil => rfl
  | cons x s ih => exact congrArg (x :: ·) ih

@[simp]
theorem after_map_kept : after (s.map .kept) = s := by
  induction s with
  | nil => rfl
  | cons x s ih => exact congrArg (x :: ·) ih

theorem eq_append_commonFront (s : List Cell) (t : Text) :
    s = (commonFront s t).1 ++ (commonFront s t).2.1 ∧
      t = spelled (commonFront s t).1 ++ (commonFront s t).2.2 := by
  fun_induction commonFront s t with
  | case1 x s t front s' t' hfront ih =>
    rw [hfront] at ih
    exact ⟨congrArg (x :: ·) ih.1, congrArg (x.1 :: ·) ih.2⟩
  | case2 x s c t hc => exact ⟨rfl, rfl⟩
  | case3 s t hnone => exact ⟨rfl, rfl⟩

/-- A revision leads from the cells to the text. -/
theorem revision_spec (taken : List Cell) (t : Text) :
    before (revision taken t) = taken ∧ spelled (after (revision taken t)) = t := by
  obtain ⟨hs, ht⟩ := eq_append_commonFront taken t
  rw [revision]
  generalize commonFront taken t = common at hs ht ⊢
  obtain ⟨front, s, left⟩ := common
  obtain ⟨hs', hleft⟩ := eq_append_commonFront s.reverse left.reverse
  simp only
  generalize commonFront s.reverse left.reverse = common at hs' hleft ⊢
  obtain ⟨back, removed, inserted⟩ := common
  have hs' : s = removed.reverse ++ back.reverse := by
    rw [← List.reverse_append, ← hs', List.reverse_reverse]
  have hleft : left = inserted.reverse ++ spelled back.reverse := by
    rw [spelled, List.map_reverse, ← spelled, ← List.reverse_append, ← hleft, List.reverse_reverse]
  constructor
  · rw [before_append, before_cons, before_map_kept, before_map_kept, hs, hs']
    rfl
  · rw [after_append, after_cons, after_map_kept, after_map_kept, ht, hleft, spelled_append,
      spelled_append, Step.after, spelled_map_none]

theorem before_stepsFrom {k : Nat} : before (stepsFrom rule k s) = s.drop k := by
  induction s generalizing k with
  | nil => cases k <;> rfl
  | cons x s ih =>
    cases k with
    | succ k => exact ih
    | zero =>
      rw [stepsFrom]
      split
      · rw [before_append, (revision_spec _ _).1, ih, List.cons_append, List.take_append_drop,
          List.drop_zero]
      · rw [before_cons, ih]
        rfl

theorem spelled_after_stepsFrom {k : Nat} :
    spelled (after (stepsFrom rule k s)) = Text.substituteFrom rule k (spelled s) := by
  induction s generalizing k with
  | nil => cases k <;> rfl
  | cons x s ih =>
    cases k with
    | succ k => exact ih
    | zero =>
      have hcons : spelled (x :: s) = x.1 :: spelled s := rfl
      rw [stepsFrom, hcons, Text.substituteFrom]
      cases rule (x.1 :: spelled s) with
      | some found =>
        simp only
        rw [after_append, spelled_append, (revision_spec _ _).2, ih]
      | none =>
        simp only
        rw [after_cons, spelled_append, ih]
        rfl

/-- The steps of a rule begin with the text that it is given. -/
theorem before_steps : before (steps rule s) = s := before_stepsFrom

/-- The steps of a rule end with the text that it makes. -/
theorem spelled_after_steps : spelled (after (steps rule s)) = Text.substitute rule (spelled s) :=
  spelled_after_stepsFrom

/-! ### Codes -/

@[simp]
theorem codeOf_append : codeOf i (s ++ s') = codeOf i s ++ codeOf i s' := List.filter_append ..

theorem mem_codeOf : x ∈ codeOf i s ↔ x ∈ s ∧ x.2 = some i := by
  simp [codeOf]

theorem codeOf_eq_nil_iff : codeOf i s = [] ↔ ∀ x ∈ s, x.2 ≠ some i := by
  simp [codeOf, List.filter_eq_nil_iff]

theorem codeOf_inserted : codeOf i (t.map (·, none)) = [] := by
  rw [codeOf_eq_nil_iff]
  intro x hx
  obtain ⟨c, -, rfl⟩ := List.mem_map.mp hx
  exact Option.some_ne_none i |>.symm

/-- The cells that belong to any code. -/
def inCode (s : List Cell) : List Cell := s.filter (·.2.isSome)

@[simp]
theorem inCode_append : inCode (s ++ s') = inCode s ++ inCode s' := List.filter_append ..

theorem inCode_inserted : inCode (t.map (·, none)) = [] := by
  simp [inCode]

theorem codeOf_inCode : codeOf i (inCode s) = codeOf i s := by
  rw [codeOf, inCode, List.filter_filter]
  refine List.filter_congr fun x _ ↦ ?_
  cases x.2 <;> simp

/-- No step adds to what is counted as code. -/
theorem filter_after_sublist {p : Cell → Bool} (hp : ∀ c, p (c, none) = false) (l : List Step) :
    ((after l).filter p).Sublist ((before l).filter p) := by
  induction l with
  | nil => exact List.Sublist.refl _
  | cons step l ih =>
    rw [after_cons, before_cons, List.filter_append, List.filter_append]
    refine List.Sublist.append ?_ ih
    cases step with
    | kept x => exact List.Sublist.refl _
    | changed removed inserted =>
      have hnone : (inserted.map (·, none)).filter p = [] := by
        simp [List.filter_eq_nil_iff, hp]
      rw [Step.after, hnone]
      exact List.nil_sublist _

theorem codeOf_after_sublist (l : List Step) : (codeOf i (after l)).Sublist (codeOf i (before l)) :=
  filter_after_sublist (fun _ ↦ rfl) l

/-- Where a code stands together there is nothing of it on either side. -/
theorem codeOf_of_infix (h : codeOf i s <:+: s') (hsub : (codeOf i s').Sublist (codeOf i s)) :
    ∃ u v, s' = u ++ codeOf i s ++ v ∧ codeOf i u = [] ∧ codeOf i v = [] ∧
      codeOf i s' = codeOf i s := by
  obtain ⟨u, v, hs'⟩ := h
  have hself : codeOf i (codeOf i s) = codeOf i s := by simp [codeOf]
  have hcode : codeOf i s' = codeOf i u ++ codeOf i s ++ codeOf i v := by
    rw [← hs', codeOf_append, codeOf_append, hself]
  have hlength := hsub.length_le
  rw [hcode] at hlength
  simp only [List.length_append] at hlength
  have hu : codeOf i u = [] := List.length_eq_zero_iff.mp (by omega)
  have hv : codeOf i v = [] := List.length_eq_zero_iff.mp (by omega)
  exact ⟨u, v, hs'.symm, hu, hv, by rw [hcode, hu, hv, List.nil_append, List.append_nil]⟩

/-- A code with something else within it does not stand together. -/
theorem not_infix_of_between (hx : x.2 ≠ some i) (hu : codeOf i u ≠ []) (hv : codeOf i v ≠ []) :
    ¬codeOf i (u ++ x :: v) <:+: u ++ x :: v := by
  intro h
  obtain ⟨a, b, hsplit, ha, hb, -⟩ := codeOf_of_infix h (List.Sublist.refl _)
  generalize hcode : codeOf i (u ++ x :: v) = c at hsplit
  rw [List.append_assoc] at hsplit
  rcases List.append_eq_append_iff.mp hsplit with ⟨a', rfl, hrest⟩ | ⟨u', rfl, hrest⟩
  · rw [codeOf_append, List.append_eq_nil_iff] at ha
    exact hu ha.1
  -- what is behind `x` holds some of the code, so `x` is not before the end of the code
  have hbehind {w : List Cell} (hw : codeOf i (w ++ x :: v) = []) : False := by
    rw [codeOf_append, List.append_eq_nil_iff, codeOf_eq_nil_iff (s := x :: v)] at hw
    exact hv (codeOf_eq_nil_iff.mpr fun y hy ↦ hw.2 y (List.mem_cons_of_mem _ hy))
  rcases List.append_eq_append_iff.mp hrest with ⟨w, -, rfl⟩ | ⟨w, rfl, hend⟩
  · exact hbehind hb
  cases w with
  | nil => exact hbehind (w := []) (by rw [List.nil_append, hend]; exact hb)
  | cons y w =>
    obtain ⟨rfl, -⟩ := List.cons.inj hend
    have hmem : x ∈ codeOf i (a ++ u' ++ x :: v) :=
      hcode ▸ List.mem_append_right _ List.mem_cons_self
    exact hx (mem_codeOf.mp hmem).2

/-! ### One replacement -/

/-- The end of a text and the beginning of another belong to one code. -/
def IsWithinCode (s s' : List Cell) : Prop :=
  ∃ i, ∃ x ∈ s.getLast?, ∃ y ∈ s'.head?, x.2 = some i ∧ y.2 = some i

/-- Behind a text, no step takes a character out of a code or puts something into one. -/
def SparesCodeBehind (s : List Cell) (l : List Step) : Prop :=
  ∀ l₁ removed inserted l₂, l = l₁ ++ .changed removed inserted :: l₂ →
    (∀ x ∈ removed, x.2 = none) ∧
      (removed = [] → inserted ≠ [] → ¬IsWithinCode (s ++ before l₁) (before l₂))

/-- No step takes a character out of a code or puts something into one. -/
def SparesCode (l : List Step) : Prop := SparesCodeBehind [] l

theorem SparesCodeBehind.tail {step : Step} (h : SparesCodeBehind s (step :: l)) :
    SparesCodeBehind (s ++ step.before) l := by
  intro l₁ removed inserted l₂ hl
  have hstep := h (step :: l₁) removed inserted l₂ (by rw [hl]; rfl)
  rwa [before_cons, ← List.append_assoc] at hstep

theorem SparesCodeBehind.head {removed : List Cell} {inserted : Text}
    (h : SparesCodeBehind s (.changed removed inserted :: l)) : (∀ x ∈ removed, x.2 = none) ∧
      (removed = [] → inserted ≠ [] → ¬IsWithinCode s (before l)) := by
  have hhere := h [] removed inserted l rfl
  rwa [show before [] = [] from rfl, List.append_nil] at hhere

/-- Within a code, the steps leave the rest of it as it is. -/
theorem prefix_after (h : SparesCodeBehind s l) (hs : ∃ x ∈ s.getLast?, x.2 = some i)
    {c : List Cell} (hc : ∀ x ∈ c, x.2 = some i) (hl : c <+: before l) : c <+: after l := by
  induction l generalizing s c with
  | nil => exact hl
  | cons step l ih =>
    cases c with
    | nil => exact List.nil_prefix
    | cons y c =>
      cases step with
      | kept x =>
        obtain ⟨rfl, hrest⟩ := List.cons_prefix_cons.mp hl
        have hlast : ∃ x ∈ (s ++ (Step.kept y).before).getLast?, x.2 = some i :=
          ⟨y, by simp [Step.before], hc y List.mem_cons_self⟩
        exact List.cons_prefix_cons.mpr
          ⟨rfl, ih h.tail hlast (fun x hx ↦ hc x (List.mem_cons_of_mem _ hx)) hrest⟩
      | changed removed inserted =>
        obtain ⟨hgap, hwithin⟩ := h.head
        cases removed with
        | cons z removed =>
          obtain ⟨rfl, -⟩ := List.cons_prefix_cons.mp hl
          have hnone := hgap y List.mem_cons_self
          rw [hc y List.mem_cons_self] at hnone
          cases hnone
        | nil =>
          have hl : y :: c <+: before l := hl
          obtain ⟨rest, hrest⟩ := hl
          have hinserted : inserted = [] := by
            by_contra hne
            obtain ⟨x, hx, hcode⟩ := hs
            exact hwithin rfl hne
              ⟨i, x, hx, y, by rw [← hrest]; rfl, hcode, hc y List.mem_cons_self⟩
          subst hinserted
          have htail := h.tail
          rw [Step.before, List.append_nil] at htail
          exact ih htail hs hc ⟨rest, hrest⟩

/-- Steps that spare all codes leave one as it is. -/
theorem infix_after (h : SparesCodeBehind s l) {a c b : List Cell} (ha : ∀ x ∈ a, x.2 ≠ some i)
    (hc : ∀ x ∈ c, x.2 = some i) (hl : before l = a ++ (c ++ b)) : c <:+: after l := by
  cases c with
  | nil => exact List.nil_infix
  | cons z c =>
    induction l generalizing s a with
    | nil => simp [before] at hl
    | cons step l ih =>
      cases step with
      | kept x =>
        cases a with
        | nil =>
          obtain ⟨rfl, hrest⟩ := List.cons.inj hl
          have hlast : ∃ y ∈ (s ++ (Step.kept x).before).getLast?, y.2 = some i :=
            ⟨x, by simp [Step.before], hc x List.mem_cons_self⟩
          have hbegin := prefix_after h.tail hlast (c := c)
            (fun y hy ↦ hc y (List.mem_cons_of_mem _ hy)) ⟨b, hrest.symm⟩
          exact (List.cons_prefix_cons.mpr ⟨rfl, hbegin⟩).isInfix
        | cons y a =>
          obtain ⟨rfl, hrest⟩ := List.cons.inj hl
          exact (ih h.tail (fun y hy ↦ ha y (List.mem_cons_of_mem _ hy)) hrest).trans
            (List.suffix_cons _ _).isInfix
      | changed removed inserted =>
        have hbehind {a : List Cell} (ha : ∀ x ∈ a, x.2 ≠ some i)
            (hrest : before l = a ++ (z :: c ++ b)) :
            z :: c <:+: after (.changed removed inserted :: l) :=
          (ih h.tail ha hrest).trans (List.suffix_append _ _).isInfix
        rcases List.append_eq_append_iff.mp hl with ⟨a', rfl, hrest⟩ | ⟨r, rfl, hrest⟩
        · exact hbehind (fun x hx ↦ ha x (List.mem_append_right _ hx)) hrest
        · cases r with
          | nil => exact hbehind (a := []) (by simp) hrest.symm
          | cons y r =>
            obtain ⟨rfl, -⟩ := List.cons.inj hrest
            have hnone := h.head.1 z (List.mem_append_right _ List.mem_cons_self)
            rw [hc z List.mem_cons_self] at hnone
            cases hnone

/-- **A replacement leaves the code of a text intact just if none of its steps takes a character out
of a code or puts something into one.** -/
theorem intact_after_iff (hl : Intact (before l) (before l)) :
    Intact (before l) (after l) ↔ SparesCode l := by
  constructor
  · intro hintact l₁ removed inserted l₂ hsplit
    have hcode (i : Nat) := codeOf_of_infix (hintact i) (codeOf_after_sublist l)
    -- no code has lost a cell in any part of the steps
    have hparts (i : Nat) : codeOf i removed = [] ∧
        codeOf i (after l₁) = codeOf i (before l₁) ∧
        codeOf i (after l₂) = codeOf i (before l₂) := by
      obtain ⟨u, v, -, -, -, hsame⟩ := hcode i
      have hlength := congrArg List.length hsame
      have h₁ := codeOf_after_sublist (i := i) l₁
      have h₂ := codeOf_after_sublist (i := i) l₂
      rw [hsplit] at hlength
      simp only [after_append, after_cons, before_append, before_cons, codeOf_append, Step.after,
        Step.before, codeOf_inserted, List.length_append, List.length_nil] at hlength
      have hle₁ := h₁.length_le
      have hle₂ := h₂.length_le
      exact ⟨List.length_eq_zero_iff.mp (by omega), h₁.eq_of_length (by omega),
        h₂.eq_of_length (by omega)⟩
    constructor
    · intro x hx
      cases hlabel : x.2 with
      | none => rfl
      | some i => exact absurd hlabel (codeOf_eq_nil_iff.mp (hparts i).1 x hx)
    · rintro rfl hinserted ⟨i, x, hx, y, hy, hxi, hyi⟩
      rw [List.nil_append] at hx
      obtain ⟨d, t, rfl⟩ := List.exists_cons_of_ne_nil hinserted
      obtain ⟨-, h₁, h₂⟩ := hparts i
      have hu : codeOf i (after l₁) ≠ [] := by
        rw [h₁]
        exact List.ne_nil_of_mem (mem_codeOf.mpr ⟨List.mem_of_mem_getLast? hx, hxi⟩)
      have hv : codeOf i (t.map (·, none) ++ after l₂) ≠ [] := by
        rw [codeOf_append, codeOf_inserted, List.nil_append, h₂]
        exact List.ne_nil_of_mem (mem_codeOf.mpr ⟨List.mem_of_mem_head? hy, hyi⟩)
      refine not_infix_of_between (x := (d, none)) (i := i) (by simp) hu hv ?_
      have htogether := hintact i
      obtain ⟨u, v, -, -, -, hsame⟩ := hcode i
      rw [← hsame, hsplit] at htogether
      simpa [Step.after] using htogether
  · intro hspares i
    obtain ⟨u, v, hsplit, hu, -, -⟩ := codeOf_of_infix (hl i) (List.Sublist.refl _)
    rw [List.append_assoc] at hsplit
    exact infix_after hspares (codeOf_eq_nil_iff.mp hu) (fun x hx ↦ (mem_codeOf.mp hx).2) hsplit

/-! ### Replacements one after the other -/

/-- A text after the replacements of a rule. -/
def sweep (rule : Text.Rule) (s : List Cell) : List Cell := after (steps rule s)

/-- A text after the replacements of rules in their order. -/
def sweeps (rules : List Text.Rule) (s : List Cell) : List Cell :=
  rules.foldl (fun s rule ↦ sweep rule s) s

/-- After any number of the replacements, the codes of the text are as they were. -/
def KeepsCode (rules : List Text.Rule) (s : List Cell) : Prop :=
  ∀ done, done <+: rules → Intact s (sweeps done s)

@[simp]
theorem sweeps_concat : sweeps (rules ++ [rule]) s = sweep rule (sweeps rules s) := by
  simp [sweeps]

theorem spelled_sweeps : spelled (sweeps rules s) =
    rules.foldl (fun t rule ↦ Text.substitute rule t) (spelled s) := by
  induction rules generalizing s with
  | nil => rfl
  | cons rule rules ih =>
    rw [sweeps, List.foldl_cons, ← sweeps, ih, List.foldl_cons, sweep, spelled_after_steps]

theorem filter_sweeps_sublist {p : Cell → Bool} (hp : ∀ c, p (c, none) = false) :
    ((sweeps rules s).filter p).Sublist (s.filter p) := by
  induction rules generalizing s with
  | nil => exact List.Sublist.refl _
  | cons rule rules ih =>
    have hstep := filter_after_sublist hp (steps rule s)
    rw [before_steps] at hstep
    exact ih.trans hstep

theorem codeOf_sweeps_sublist : (codeOf i (sweeps rules s)).Sublist (codeOf i s) :=
  filter_sweeps_sublist fun _ ↦ rfl

theorem codeOf_sweeps_eq (h : Intact s (sweeps rules s)) :
    codeOf i (sweeps rules s) = codeOf i s := by
  obtain ⟨-, -, -, -, -, hcode⟩ := codeOf_of_infix (h i) codeOf_sweeps_sublist
  exact hcode

theorem count_inCode (h : x.2 = some i) : (inCode s).count x = (codeOf i s).count x := by
  rw [inCode, codeOf, List.count_filter (by simp [h]), List.count_filter (by simp [h])]

/-- The codes that come through stand in their order, with nothing of any code elsewhere. -/
theorem inCode_sweeps_eq (h : Intact s (sweeps rules s)) :
    inCode (sweeps rules s) = inCode s := by
  have hsub : (inCode (sweeps rules s)).Sublist (inCode s) := filter_sweeps_sublist fun _ ↦ rfl
  refine hsub.eq_of_length (List.Perm.length_eq (List.perm_iff_count.mpr fun x ↦ ?_))
  cases hx : x.2 with
  | some i => rw [count_inCode hx, count_inCode hx, codeOf_sweeps_eq h]
  | none =>
    have hnot (s : List Cell) : x ∉ inCode s := by simp [inCode, hx]
    rw [List.count_eq_zero_of_not_mem (hnot _), List.count_eq_zero_of_not_mem (hnot _)]

theorem Intact.self (h : Intact s (sweeps rules s)) :
    Intact (sweeps rules s) (sweeps rules s) := by
  intro i
  rw [codeOf_sweeps_eq h]
  exact h i

theorem intact_sweep_iff (h : Intact s (sweeps rules s)) :
    Intact s (sweep rule (sweeps rules s)) ↔ SparesCode (steps rule (sweeps rules s)) := by
  have hself : Intact (before (steps rule (sweeps rules s)))
      (before (steps rule (sweeps rules s))) := by
    rw [before_steps]
    exact h.self
  rw [← intact_after_iff hself, before_steps, sweep]
  exact forall_congr' fun i ↦ by rw [codeOf_sweeps_eq h]

theorem keepsCode_concat_iff : KeepsCode (rules ++ [rule]) s ↔
    KeepsCode rules s ∧ SparesCode (steps rule (sweeps rules s)) := by
  constructor
  · intro h
    have hrules := h rules (List.prefix_append _ _)
    refine ⟨fun done hdone ↦ h done (hdone.trans (List.prefix_append _ _)), ?_⟩
    have hall := h (rules ++ [rule]) (List.prefix_refl _)
    rwa [sweeps_concat, intact_sweep_iff hrules] at hall
  · rintro ⟨hrules, hspares⟩ done hdone
    rcases List.prefix_concat_iff.mp hdone with rfl | hdone
    · rw [sweeps_concat, intact_sweep_iff (hrules rules (List.prefix_refl _))]
      exact hspares
    · exact hrules done hdone

/-- **The codes of a text come through some replacements intact just if each replacement, on the
text that the ones before it have left, spares them.** -/
theorem keepsCode_iff (hs : Intact s s) : KeepsCode rules s ↔
    ∀ done rule, done ++ [rule] <+: rules → SparesCode (steps rule (sweeps done s)) := by
  induction rules using List.reverseRecOn with
  | nil =>
    constructor
    · intro _ done rule h
      simp at h
    · intro _ done hdone
      rw [List.prefix_nil.mp hdone]
      exact hs
  | append_singleton rules last ih =>
    rw [keepsCode_concat_iff, ih]
    constructor
    · rintro ⟨hrules, hlast⟩ done rule h
      rcases List.prefix_concat_iff.mp h with heq | h
      · obtain ⟨rfl, hrule⟩ := List.append_inj' heq rfl
        obtain rfl : rule = last := by simpa using hrule
        exact hlast
      · exact hrules done rule h
    · intro h
      exact ⟨fun done rule hdone ↦ h done rule (hdone.trans (List.prefix_append _ _)),
        h rules last (List.prefix_refl _)⟩

end ApiSite.Doc
