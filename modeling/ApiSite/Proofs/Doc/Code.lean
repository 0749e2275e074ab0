import ApiSite.Doc.Documentation
import ApiSite.Proofs.Doc.Following

/-!
# Code in a finished text

What is done with documentation once it is Markdown is a sequence of replacements, each by a rule of
its own (`finish_eq_foldl`). None of them looks for code, so whether code stays as it is depends on
what the rules find in it and around it. Here a text is divided into prose and code, the backticks
around the code included, and the code is followed through the replacements. It comes out as it was
just if no rule before the braces are escaped changes a character of it or puts something into it,
and there are no two equal braces next to each other in it (`finish_code`): braces are escaped in
code as in prose, so a template in a code sample never comes out as it was written.
-/

set_option autoImplicit false

namespace ApiSite.Doc

variable {i n : Nat} {s u v : List Cell} {x y : Cell} {t : Text} {c b : Char}

/-! ### Prose and code -/

/-- A piece of code with the backticks around it. -/
structure Code where
  text : Text
  head : text.head? = some '\x60'
  last : text.getLast? = some '\x60'

theorem Code.ne_nil (d : Code) : d.text ≠ [] := by
  intro hnil
  have hhead := d.head
  rw [hnil] at hhead
  cases hhead

/-- A part of a text. -/
inductive Region where
  | prose (t : Text)
  | code (c : Code)

def Region.text : Region → Text
  | prose t => t
  | code c => c.text

/-- The text that is divided into some parts. -/
def textOf (rs : List Region) : Text := rs.flatMap Region.text

/-- The code among the parts of a text, in order. -/
def codesOf : List Region → List Code
  | [] => []
  | .prose _ :: rs => codesOf rs
  | .code c :: rs => c :: codesOf rs

/-- A text cell by cell, its codes numbered from `n` on. -/
def cellsFrom : Nat → List Region → List Cell
  | _, [] => []
  | n, .prose t :: rs => t.map (·, none) ++ cellsFrom n rs
  | n, .code c :: rs => c.text.map (·, some n) ++ cellsFrom (n + 1) rs

/-- A text cell by cell. -/
def cellsOf (rs : List Region) : List Cell := cellsFrom 0 rs

theorem spelled_cellsFrom {rs : List Region} : spelled (cellsFrom n rs) = textOf rs := by
  induction rs generalizing n with
  | nil => rfl
  | cons r rs ih =>
    cases r with
    | prose t => rw [cellsFrom, spelled_append, spelled_map_none, ih]; rfl
    | code c => rw [cellsFrom, spelled_append, spelled_map_some, ih]; rfl

theorem codeOf_map_some {j : Nat} :
    codeOf i (t.map (·, some j)) = if j = i then t.map (·, some j) else [] := by
  split
  · next h => simp [codeOf, h]
  · next h => simp [codeOf, h]

theorem codeOf_cellsFrom_of_lt {rs : List Region} (h : i < n) : codeOf i (cellsFrom n rs) = [] := by
  induction rs generalizing n with
  | nil => rfl
  | cons r rs ih =>
    cases r with
    | prose t => rw [cellsFrom, codeOf_append, codeOf_inserted, ih h, List.nil_append]
    | code c =>
      rw [cellsFrom, codeOf_append, codeOf_map_some, if_neg (by omega), ih (by omega),
        List.nil_append]

/-- Each number belongs to a code that stands together, or to none. -/
theorem codeOf_cellsFrom (rs : List Region) (n i : Nat) :
    codeOf i (cellsFrom n rs) <:+: cellsFrom n rs ∧
      (codeOf i (cellsFrom n rs) = [] ∨
        ∃ c ∈ codesOf rs, codeOf i (cellsFrom n rs) = c.text.map (·, some i)) := by
  induction rs generalizing n with
  | nil => exact ⟨List.nil_infix, Or.inl rfl⟩
  | cons r rs ih =>
    cases r with
    | prose t =>
      obtain ⟨htogether, hcode⟩ := ih n
      have hsame : codeOf i (cellsFrom n (.prose t :: rs)) = codeOf i (cellsFrom n rs) := by
        rw [cellsFrom, codeOf_append, codeOf_inserted, List.nil_append]
      rw [hsame]
      exact ⟨htogether.trans (List.suffix_append _ _).isInfix, hcode⟩
    | code c =>
      by_cases hi : n = i
      · have hsame : codeOf i (cellsFrom n (.code c :: rs)) = c.text.map (·, some i) := by
          rw [cellsFrom, codeOf_append, codeOf_map_some, if_pos hi,
            codeOf_cellsFrom_of_lt (by omega), List.append_nil, hi]
        rw [hsame]
        refine ⟨?_, Or.inr ⟨c, List.mem_cons_self, rfl⟩⟩
        rw [cellsFrom, hi]
        exact (List.prefix_append _ _).isInfix
      · obtain ⟨htogether, hcode⟩ := ih (n + 1)
        have hsame : codeOf i (cellsFrom n (.code c :: rs)) = codeOf i (cellsFrom (n + 1) rs) := by
          rw [cellsFrom, codeOf_append, codeOf_map_some, if_neg hi, List.nil_append]
        rw [hsame]
        refine ⟨htogether.trans (List.suffix_append _ _).isInfix, hcode.imp_right ?_⟩
        rintro ⟨d, hd, heq⟩
        exact ⟨d, List.mem_cons_of_mem _ hd, heq⟩

theorem intact_cellsOf (rs : List Region) : Intact (cellsOf rs) (cellsOf rs) :=
  fun i ↦ (codeOf_cellsFrom rs 0 i).1

theorem exists_codeOf_cellsFrom {rs : List Region} {d : Code} (hd : d ∈ codesOf rs) (n : Nat) :
    ∃ i, codeOf i (cellsFrom n rs) = d.text.map (·, some i) := by
  induction rs generalizing n with
  | nil => cases hd
  | cons r rs ih =>
    cases r with
    | prose t =>
      obtain ⟨i, hi⟩ := ih hd n
      exact ⟨i, by rw [cellsFrom, codeOf_append, codeOf_inserted, hi, List.nil_append]⟩
    | code c =>
      rcases List.mem_cons.mp hd with rfl | hd
      · exact ⟨n, by rw [cellsFrom, codeOf_append, codeOf_map_some, if_pos rfl,
          codeOf_cellsFrom_of_lt (Nat.lt_succ_self n), List.append_nil]⟩
      · obtain ⟨i, hi⟩ := ih hd (n + 1)
        have hlt : ¬n = i := by
          rintro rfl
          rw [codeOf_cellsFrom_of_lt (Nat.lt_succ_self n)] at hi
          exact d.ne_nil (List.map_eq_nil_iff.mp hi.symm)
        exact ⟨i, by rw [cellsFrom, codeOf_append, codeOf_map_some, if_neg hlt, hi,
          List.nil_append]⟩

/-! ### The replacements -/

/-- A rule of cleaning, its removals left out of account. -/
def asRule (rule : Sanitize.Rule) : Text.Rule := fun t ↦
  (rule t).map fun e ↦ (e.size, e.replacement)

/-- Drops a null character. -/
def dropNull : Text.Rule := fun t ↦ if t.head? = some '\x00' then some (1, []) else none

/-- Escapes a pair of equal braces. -/
def escapePair (b : Char) : Text.Rule := fun t ↦
  if Text.startsWith [b, b] t then some (2, ['\\', b, '\\', b]) else none

/-- The rules for the constructs that a finished text has otherwise or not at all, in order. -/
def constructs (site : Site) : List Text.Rule :=
  [insertFragment site.model.fragment, convertLink, completeEmbedderLink, dropNull] ++
    (Sanitize.rules site.frameHosts).map asRule

/-- The rules by which a text is finished, in order. -/
def stages (site : Site) : List Text.Rule :=
  constructs site ++ [escapePair '\x7b'] ++ [escapePair '\x7d']

theorem substitute_dropNull (t : Text) : Text.substitute dropNull t = t.filter (· != '\x00') := by
  rw [Text.substitute]
  induction t with
  | nil => rfl
  | cons c t ih =>
    by_cases hc : c = '\x00'
    · simp [Text.substituteFrom, dropNull, hc, ih]
    · simp [Text.substituteFrom, dropNull, hc, ih]

theorem replace_eq_substitute (b : Char) (t : Text) :
    Text.replace [b, b] ['\\', b, '\\', b] t = Text.substitute (escapePair b) t := by
  have hfrom (k : Nat) : Text.replaceFrom [b, b] ['\\', b, '\\', b] k t =
      Text.substituteFrom (escapePair b) k t := by
    induction t generalizing k with
    | nil => cases k <;> rfl
    | cons c t ih =>
      cases k with
      | succ k => exact ih k
      | zero =>
        rw [Text.replaceFrom, Text.substituteFrom, escapePair]
        split
        · simp only [ih]
          rfl
        · simp only [ih]
  exact hfrom 0

theorem applyRule_eq_substitute (rule : Sanitize.Rule) (t : Text) :
    (Sanitize.applyRule rule t).1 = Text.substitute (asRule rule) t := by
  have hfrom (k : Nat) : (Sanitize.applyFrom rule k t).1 =
      Text.substituteFrom (asRule rule) k t := by
    induction t generalizing k with
    | nil => cases k <;> rfl
    | cons c t ih =>
      cases k with
      | succ k => exact ih k
      | zero =>
        rw [Sanitize.applyFrom, Text.substituteFrom, asRule]
        cases rule (c :: t) with
        | none => simp only [Option.map_none, ih]
        | some e => simp only [Option.map_some, ih]
  exact hfrom 0

theorem applyRules_eq_foldl (rules : List Sanitize.Rule) (t : Text) :
    (Sanitize.applyRules rules t).1 =
      (rules.map asRule).foldl (fun t rule ↦ Text.substitute rule t) t := by
  induction rules generalizing t with
  | nil => rfl
  | cons rule rules ih =>
    rw [Sanitize.applyRules, List.map_cons, List.foldl_cons, ← applyRule_eq_substitute]
    exact ih _

/-- Finishing a text is a sequence of replacements. -/
theorem finish_eq_foldl (site : Site) (t : Text) : (finish site t).1 =
    (stages site).foldl (fun t rule ↦ Text.substitute rule t) t := by
  have hclean (t : Text) : (Sanitize.clean site.frameHosts t).1 =
      ((Sanitize.rules site.frameHosts).map asRule).foldl (fun t rule ↦ Text.substitute rule t)
        (Text.substitute dropNull t) := by
    rw [Sanitize.clean, applyRules_eq_foldl, substitute_dropNull]
  have hbraces (t : Text) : Sanitize.escapeBraces t =
      Text.substitute (escapePair '\x7d') (Text.substitute (escapePair '\x7b') t) := by
    rw [← replace_eq_substitute, ← replace_eq_substitute]
    rfl
  rw [finish, Sanitize.sanitize, stages, constructs]
  simp only [List.foldl_append, List.foldl_cons, List.foldl_nil, ← hclean, hbraces, convertLinks]

/-! ### Pairs of braces -/

theorem steps_nil {rule : Text.Rule} : steps rule [] = [] := rfl

theorem steps_escapePair_pair (hb : b ≠ '\\') (hx : x.1 = b) (hy : y.1 = b) :
    steps (escapePair b) (x :: y :: s) =
      .changed [x] ['\\', b, '\\'] :: .kept y :: steps (escapePair b) s := by
  have hrule : escapePair b (spelled (x :: y :: s)) = some (2, ['\\', b, '\\', b]) := by
    simp [escapePair, spelled, Text.startsWith, hx, hy]
  have hrevision : revision [x, y] ['\\', b, '\\', b] =
      [.changed [x] ['\\', b, '\\'], .kept y] := by
    simp [revision, commonFront, hx, hy, hb]
  rw [steps, stepsFrom, hrule]
  simp only [Nat.add_one_sub_one, List.take_succ_cons, List.take_zero, hrevision]
  rfl

theorem steps_escapePair_cons (h : x.1 = b → (spelled s).head? ≠ some b) :
    steps (escapePair b) (x :: s) = .kept x :: steps (escapePair b) s := by
  have hrule : escapePair b (spelled (x :: s)) = none := by
    have hno : Text.startsWith [b, b] (spelled (x :: s)) = false := by
      cases s with
      | nil => simp [spelled, Text.startsWith, List.isPrefixOf]
      | cons y s =>
        simp only [spelled, List.map_cons, List.head?_cons, ne_eq, Option.some.injEq] at h
        simp only [spelled, Text.startsWith, List.map_cons, List.isPrefixOf_cons_cons,
          Bool.and_eq_false_iff, beq_eq_false_iff_ne]
        by_cases hx : x.1 = b
        · exact Or.inr (Or.inl (Ne.symm (h hx)))
        · exact Or.inl (Ne.symm hx)
    rw [escapePair, hno, if_neg Bool.false_ne_true]
  rw [steps, stepsFrom, hrule]
  rfl

/-- What is changed is the first of two equal braces. -/
theorem exists_pair_of_changed {removed : List Cell} {inserted : Text} (hb : b ≠ '\\') :
    ∀ s : List Cell, .changed removed inserted ∈ steps (escapePair b) s →
      ∃ u x y v, s = u ++ x :: y :: v ∧ removed = [x] ∧ x.1 = b ∧ y.1 = b
  | [], h => by
    rw [steps_nil] at h
    cases h
  | [x], h => by
    rw [steps_escapePair_cons (by simp [spelled]), steps_nil] at h
    simp at h
  | x :: y :: s, h => by
    by_cases hpair : x.1 = b ∧ y.1 = b
    · rw [steps_escapePair_pair hb hpair.1 hpair.2] at h
      simp only [List.mem_cons, reduceCtorEq, false_or, Step.changed.injEq] at h
      rcases h with ⟨rfl, -⟩ | h
      · exact ⟨[], x, y, s, rfl, rfl, hpair⟩
      · obtain ⟨u, x', y', v, rfl, hrest⟩ := exists_pair_of_changed hb s h
        exact ⟨x :: y :: u, x', y', v, rfl, hrest⟩
    · have hhead : x.1 = b → (spelled (y :: s)).head? ≠ some b := by
        simpa [spelled] using hpair
      rw [steps_escapePair_cons hhead] at h
      obtain ⟨u, x', y', v, heq, hrest⟩ := exists_pair_of_changed hb (y :: s) (by simpa using h)
      exact ⟨x :: u, x', y', v, by rw [heq]; rfl, hrest⟩

/-- Two equal braces that begin a run of them are escaped together. -/
theorem changed_mem_steps (hb : b ≠ '\\') (hx : x.1 = b) (hy : y.1 = b) :
    ∀ u : List Cell, (spelled u).getLast? ≠ some b →
      .changed [x] ['\\', b, '\\'] ∈ steps (escapePair b) (u ++ x :: y :: v)
  | [], _ => by
    rw [List.nil_append, steps_escapePair_pair hb hx hy]
    exact List.mem_cons_self
  | [z], hlast => by
    have hz : z.1 ≠ b := by simpa [spelled] using hlast
    rw [List.cons_append, steps_escapePair_cons fun h ↦ absurd h hz, List.nil_append,
      steps_escapePair_pair hb hx hy]
    exact List.mem_cons_of_mem _ List.mem_cons_self
  | z :: z' :: u, hlast => by
    by_cases hpair : z.1 = b ∧ z'.1 = b
    · have hu : (spelled u).getLast? ≠ some b := by
        cases u with
        | nil => exact absurd (by simpa [spelled] using hpair.2) hlast
        | cons w u => simpa [spelled] using hlast
      rw [List.cons_append, List.cons_append, steps_escapePair_pair hb hpair.1 hpair.2]
      exact List.mem_cons_of_mem _ (List.mem_cons_of_mem _ (changed_mem_steps hb hx hy u hu))
    · have hhead : z.1 = b → (spelled (z' :: u ++ x :: y :: v)).head? ≠ some b := by
        simpa [spelled] using hpair
      have hu : (spelled (z' :: u)).getLast? ≠ some b := by simpa [spelled] using hlast
      rw [List.cons_append, steps_escapePair_cons hhead]
      exact List.mem_cons_of_mem _ (changed_mem_steps hb hx hy (z' :: u) hu)

/-- Where two equal characters stand next to each other, two of them begin a run. -/
theorem exists_run_of_infix (h : [b, b] <:+: t) :
    (∃ t₂, t = b :: b :: t₂) ∨ ∃ t₁ d t₂, t = t₁ ++ d :: b :: b :: t₂ ∧ d ≠ b := by
  induction t with
  | nil => simp at h
  | cons d t ih =>
    rcases List.infix_cons_iff.mp h with ⟨t₂, heq⟩ | h
    · exact Or.inl ⟨t₂, heq.symm⟩
    rcases ih h with ⟨t₂, rfl⟩ | ⟨t₁, e, t₂, rfl, he⟩
    · by_cases hd : d = b
      · exact Or.inl ⟨b :: t₂, by rw [hd]⟩
      · exact Or.inr ⟨[], d, t₂, rfl, hd⟩
    · exact Or.inr ⟨d :: t₁, e, t₂, rfl, he⟩

/-- **Escaping spares a code just if there are no two equal braces next to each other in it.** -/
theorem spares_escapePair_iff (hb : b ≠ '\\') (hs : Intact s s)
    (hhead : ∀ i, (spelled (codeOf i s)).head? ≠ some b)
    (hlast : ∀ i, (spelled (codeOf i s)).getLast? ≠ some b) :
    SparesCode (steps (escapePair b) s) ↔ ∀ i, ¬[b, b] <:+: spelled (codeOf i s) := by
  constructor
  · intro hspares i hpair
    rcases exists_run_of_infix hpair with ⟨t₂, heq⟩ | ⟨t₁, d, t₂, heq, hd⟩
    · exact hhead i (by rw [heq]; rfl)
    -- the run begins within the code, so its first brace is escaped there
    obtain ⟨w, r, hcode, -, hr⟩ := List.map_eq_append_iff.mp heq
    obtain ⟨z, r, rfl, hz, hr⟩ := List.map_eq_cons_iff.mp hr
    obtain ⟨x, r, rfl, hx, hr⟩ := List.map_eq_cons_iff.mp hr
    obtain ⟨y, r, rfl, hy, -⟩ := List.map_eq_cons_iff.mp hr
    obtain ⟨u, v, hsplit, -⟩ := codeOf_of_infix (hs i) (List.Sublist.refl _)
    have hsplit : s = (u ++ w ++ [z]) ++ x :: y :: (r ++ v) := by
      rw [hsplit, hcode]
      simp
    have hchanged : .changed [x] ['\\', b, '\\'] ∈ steps (escapePair b) s := by
      rw [hsplit]
      refine changed_mem_steps hb hx hy _ ?_
      rw [spelled, List.map_append, List.map_singleton, List.getLast?_concat, hz]
      simpa using hd
    obtain ⟨l₁, l₂, hl⟩ := List.append_of_mem hchanged
    have hnone := (hspares l₁ [x] _ l₂ hl).1 x List.mem_cons_self
    have hmem : x ∈ codeOf i s := by simp [hcode]
    rw [(mem_codeOf.mp hmem).2] at hnone
    cases hnone
  · intro hno l₁ removed inserted l₂ hl
    obtain ⟨u, x, y, v, hsplit, rfl, hx, hy⟩ :=
      exists_pair_of_changed hb s (by rw [hl]; exact List.mem_append_right _ List.mem_cons_self)
    refine ⟨fun x' hx' ↦ ?_, fun hnil ↦ absurd hnil (List.cons_ne_nil _ _)⟩
    rw [List.mem_singleton.mp hx']
    cases hlabel : x.2 with
    | none => rfl
    | some i =>
      by_cases hsame : y.2 = some i
      · -- both braces are in the code
        refine absurd ?_ (hno i)
        have hcode : codeOf i s = codeOf i u ++ x :: y :: codeOf i v := by
          simp [hsplit, codeOf, hlabel, hsame]
        rw [hcode]
        exact ⟨spelled (codeOf i u), spelled (codeOf i v), by simp [spelled, hx, hy]⟩
      · -- the code ends with the first of them
        have hsplit : s = (u ++ [x]) ++ y :: v := by simp [hsplit]
        have hx' : codeOf i (u ++ [x]) = codeOf i u ++ [x] := by
          rw [codeOf_append]
          simp [codeOf, hlabel]
        have hend : codeOf i v = [] := by
          by_contra hv
          have htogether := hs i
          rw [hsplit] at htogether
          exact not_infix_of_between hsame (by rw [hx']; simp) hv htogether
        refine absurd ?_ (hlast i)
        have hcode : codeOf i s = codeOf i u ++ [x] := by
          have hy' : codeOf i (y :: v) = [] := by
            rw [codeOf_eq_nil_iff] at hend ⊢
            intro w hw
            rcases List.mem_cons.mp hw with rfl | hw
            · exact hsame
            · exact hend w hw
          rw [hsplit, codeOf_append, hx', hy', List.append_nil]
        rw [hcode, spelled, List.map_append, List.map_singleton, List.getLast?_concat, hx]

/-! ### Finished texts -/

/-- A code that stands together in a text stands together behind what holds nothing of it. -/
theorem infix_of_infix_append (hs : ∀ z ∈ s, z.2 = some i) (hu : codeOf i u = [])
    (h : s <:+: u ++ v) : s <:+: v := by
  obtain ⟨a, d, hsplit⟩ := h
  rw [List.append_assoc] at hsplit
  rcases List.append_eq_append_iff.mp hsplit with ⟨w, rfl, hw⟩ | ⟨w, rfl, hw⟩
  · cases s with
    | nil => exact List.nil_infix
    | cons z s =>
      cases w with
      | nil => exact ⟨[], d, by rw [List.nil_append]; exact hw⟩
      | cons z' w =>
        obtain ⟨rfl, -⟩ := List.cons.inj hw
        exact absurd (hs z List.mem_cons_self)
          (codeOf_eq_nil_iff.mp hu z (List.mem_append_right _ List.mem_cons_self))
  · exact ⟨w, d, by rw [hw, List.append_assoc]⟩

/-- A text in which the codes of another stand together and in order is divided by them. -/
theorem exists_regions {rs : List Region} (horder : inCode s = inCode (cellsFrom n rs))
    (htogether : ∀ i, codeOf i (cellsFrom n rs) <:+: s) :
    ∃ rs', codesOf rs' = codesOf rs ∧ textOf rs' = spelled s := by
  induction rs generalizing n s with
  | nil => exact ⟨[.prose (spelled s)], rfl, by simp [textOf, Region.text]⟩
  | cons r rs ih =>
    cases r with
    | prose t =>
      refine ih (n := n) ?_ fun i ↦ ?_
      · rwa [cellsFrom, inCode_append, inCode_inserted] at horder
      · have hi := htogether i
        rwa [cellsFrom, codeOf_append, codeOf_inserted] at hi
    | code c =>
      have hcells : cellsFrom n (.code c :: rs) = c.text.map (·, some n) ++ cellsFrom (n + 1) rs :=
        rfl
      have hcode : codeOf n (cellsFrom n (.code c :: rs)) = c.text.map (·, some n) := by
        rw [hcells, codeOf_append, codeOf_map_some, if_pos rfl,
          codeOf_cellsFrom_of_lt (Nat.lt_succ_self n), List.append_nil]
      have hsame : codeOf n s = c.text.map (·, some n) := by
        rw [← codeOf_inCode, horder, codeOf_inCode, hcode]
      obtain ⟨u, v, hs, hu, -, -⟩ := codeOf_of_infix (htogether n) (by rw [hsame, hcode])
      rw [hcode] at hs
      have hsome : inCode (c.text.map (·, some n)) = c.text.map (·, some n) := by simp [inCode]
      rw [hs, hcells, inCode_append, inCode_append, inCode_append, hsome,
        List.append_assoc] at horder
      -- no other code is in front of the first one
      have hfront : inCode u = [] := by
        obtain ⟨d, t, htext⟩ := List.exists_cons_of_ne_nil c.ne_nil
        cases hu' : inCode u with
        | nil => rfl
        | cons z w =>
          rw [hu', htext] at horder
          obtain ⟨rfl, -⟩ := List.cons.inj horder
          have hmem : (d, some n) ∈ u := (List.mem_filter.mp (hu' ▸ List.mem_cons_self)).1
          exact absurd rfl (codeOf_eq_nil_iff.mp hu _ hmem)
      rw [hfront, List.nil_append] at horder
      obtain ⟨rs', hcodes, htext⟩ := ih (List.append_cancel_left horder) fun i ↦ by
        by_cases hi : i < n + 1
        · rw [codeOf_cellsFrom_of_lt hi]
          exact List.nil_infix
        have hne : ¬n = i := by omega
        have hbehind := htogether i
        rw [hcells, codeOf_append, codeOf_map_some, if_neg hne, List.nil_append, hs] at hbehind
        refine infix_of_infix_append (fun z hz ↦ (mem_codeOf.mp hz).2) ?_ hbehind
        rw [codeOf_append, codeOf_map_some, if_neg hne, List.append_nil, ← codeOf_inCode, hfront]
        rfl
      refine ⟨.prose (spelled u) :: .code c :: rs', by simp [codesOf, hcodes], ?_⟩
      rw [hs, spelled_append, spelled_append, spelled_map_some, ← htext, List.append_assoc]
      rfl

/-- Codes that are intact are spared by escaping just if there are no two equal braces next to each
other in them. -/
theorem spares_escapePair_codes_iff {rs : List Region} {rules : List Text.Rule} (hb : b ≠ '\\')
    (htick : '\x60' ≠ b) (h : Intact (cellsOf rs) (sweeps rules (cellsOf rs))) :
    SparesCode (steps (escapePair b) (sweeps rules (cellsOf rs))) ↔
      ∀ c ∈ codesOf rs, ¬[b, b] <:+: c.text := by
  have hcode (i : Nat) : spelled (codeOf i (sweeps rules (cellsOf rs))) = [] ∨
      ∃ c ∈ codesOf rs, spelled (codeOf i (sweeps rules (cellsOf rs))) = c.text := by
    rw [codeOf_sweeps_eq h]
    rcases (codeOf_cellsFrom rs 0 i).2 with hnil | ⟨c, hc, heq⟩
    · exact Or.inl (congrArg spelled hnil)
    · exact Or.inr ⟨c, hc, (congrArg spelled heq).trans spelled_map_some⟩
  have hedges (i : Nat) : (spelled (codeOf i (sweeps rules (cellsOf rs)))).head? ≠ some b ∧
      (spelled (codeOf i (sweeps rules (cellsOf rs)))).getLast? ≠ some b := by
    rcases hcode i with hnil | ⟨c, -, heq⟩
    · simp [hnil]
    · simp [heq, c.head, c.last, htick]
  rw [spares_escapePair_iff hb h.self (fun i ↦ (hedges i).1) fun i ↦ (hedges i).2]
  constructor
  · intro hno c hc
    obtain ⟨i, hi⟩ := exists_codeOf_cellsFrom hc 0
    have hthis := hno i
    rwa [codeOf_sweeps_eq h, cellsOf, hi, spelled_map_some] at hthis
  · intro hno i
    rcases hcode i with hnil | ⟨c, hc, heq⟩
    · simp [hnil]
    · rw [heq]
      exact hno c hc

/-- **Code comes through the finishing of a text as it was just if none of the rules before the
braces are escaped, on the text that the ones before it have left, changes a character of it or puts
something into it, and no two equal braces stand next to each other in it.** The finished text is
then divided by the same code. -/
theorem finish_code (site : Site) (rs : List Region) :
    (KeepsCode (stages site) (cellsOf rs) ↔
      (∀ done rule, done ++ [rule] <+: constructs site →
        SparesCode (steps rule (sweeps done (cellsOf rs)))) ∧
      ∀ c ∈ codesOf rs, ¬['\x7b', '\x7b'] <:+: c.text ∧ ¬['\x7d', '\x7d'] <:+: c.text) ∧
    (KeepsCode (stages site) (cellsOf rs) →
      ∃ rs', codesOf rs' = codesOf rs ∧ textOf rs' = (finish site (textOf rs)).1) := by
  constructor
  · rw [stages, keepsCode_concat_iff, keepsCode_concat_iff, and_assoc,
      ← keepsCode_iff (intact_cellsOf rs)]
    simp only [imp_and, forall_and]
    refine and_congr_right fun hkeeps ↦ ?_
    have hopen := spares_escapePair_codes_iff (b := '\x7b') (by decide) (by decide)
      (hkeeps _ (List.prefix_refl _))
    rw [hopen]
    refine and_congr_right fun hno ↦ ?_
    have hopened := keepsCode_concat_iff.mpr ⟨hkeeps, hopen.mpr hno⟩
    exact spares_escapePair_codes_iff (by decide) (by decide) (hopened _ (List.prefix_refl _))
  · intro h
    have hall := h (stages site) (List.prefix_refl _)
    obtain ⟨rs', hcodes, htext⟩ := exists_regions (inCode_sweeps_eq hall) hall
    refine ⟨rs', hcodes, ?_⟩
    rw [htext, spelled_sweeps, spelled_cellsFrom, finish_eq_foldl]

-- a template in a code span
example : Sanitize.escapeBraces ("\x60\x7b\x7bx\x7d\x7d\x60" : Text) =
    ("\x60\\\x7b\\\x7bx\\\x7d\\\x7d\x60" : Text) := by decide

end ApiSite.Doc
