import ApiSite.Proofs.Markup.Inline.Spared
import Mathlib.Algebra.GroupWithZero.Nat

/-!
# Paragraph by paragraph

The paragraphs of a document are read one after another, and what was found in each becomes its
children (`read_of_isRead`). So it is enough to know what the reading of a single text comes to,
whatever names have been asked for and whatever pieces have been numbered before (`IsRead`).
-/

set_option autoImplicit false

namespace ApiSite.Markup.Inline

variable {t : Text} {setting : Setting} {trace : Trace} {fuel : Nat}

/-! ### Runs of characters -/

/-- A text where there is one. -/
def given (t : Text) : Option Text := if t.isEmpty then none else some t

/-- A run of characters where there are any. -/
def runOf (t : Text) : Option Run := (given t).map fun t ↦ .mk false (Pieces.ofText t)

theorem marked_ofText : Pieces.marked (Pieces.ofText t) = t := by
  induction t with
  | nil => rfl
  | cons c t ih => exact congrArg (c :: ·) ih

theorem runText_runOf : runText (runOf t) = given t := by
  rw [runOf]
  cases given t with
  | none => rfl
  | some t => exact congrArg some marked_ofText

theorem given_eq_some (ht : t ≠ []) : given t = some t := by
  obtain ⟨c, t, rfl⟩ := List.exists_cons_of_ne_nil ht
  rfl

theorem getD_given (t : Text) : (given t).getD [] = t := by
  cases t with
  | nil => rfl
  | cons c t => rfl

/-- Text behind text makes one run. -/
theorem addText_runOf {u : Text} :
    Assembly.addText (Pieces.ofText u) false { text := runOf t } = { text := runOf (t ++ u) } := by
  cases u with
  | nil => rw [List.append_nil]; rfl
  | cons d u =>
    cases t with
    | nil => rfl
    | cons c t => simp [Assembly.addText, joinRuns, runOf, given, Pieces.ofText]

/-! ### Reading one text -/

/-- What the reading of a text comes to: the text before the first element, the elements, the names
that are asked for, and how many pieces are numbered. -/
structure Outcome where
  text : Option Run
  found : List Draft
  names : List Text
  count : Nat

/-- A text is read with an outcome, and nothing that is found in it has children. -/
structure IsRead (setting : Setting) (t : Text) (o : Outcome) : Prop where
  notEmpty : t ≠ []
  read : ∀ trace, readRunText setting (some (.mk false (Pieces.ofText t))) trace =
    (o.text, o.found,
      { trace with names := trace.names ++ o.names, next := trace.next + o.count })
  flat : ∀ e ∈ o.found, ∃ tag attrs text tail, e = .mk tag attrs text [] tail

/-- A text is read with an outcome that depends on how many pieces of raw markup are set aside
already, and sets more of them aside. -/
structure IsReadFrom (setting : Setting) (t : Text) (raw : List Text) (o : Nat → Outcome) :
    Prop where
  notEmpty : t ≠ []
  read : ∀ trace, readRunText setting (some (.mk false (Pieces.ofText t))) trace =
    ((o trace.rawHtml.length).text, (o trace.rawHtml.length).found,
      ⟨trace.rawHtml ++ raw, trace.names ++ (o trace.rawHtml.length).names,
        trace.next + (o trace.rawHtml.length).count⟩)
  flat : ∀ n, ∀ e ∈ (o n).found, ∃ tag attrs text tail, e = .mk tag attrs text [] tail

theorem IsRead.isReadFrom {o : Outcome} (h : IsRead setting t o) :
    IsReadFrom setting t [] fun _ ↦ o where
  notEmpty := h.notEmpty
  read trace := by rw [h.read, List.append_nil]
  flat _ := h.flat

/-! ### Reading paragraphs -/

theorem readChildren_nil : readChildren setting fuel [] trace = ([], trace) := by
  cases fuel with
  | zero => rfl
  | succ fuel =>
    have hvisit : visitAll setting fuel [] trace = ([], trace) := by cases fuel <;> rfl
    rw [readChildren]
    simp only [hvisit, List.foldl_nil]

/-- A loop that adds one item for each that it takes, and leaves no trace. -/
theorem foldl_eq_of_step {α β : Type} {f : List β × Trace → α → List β × Trace} {g : α → β}
    {l : List α} {done : List β}
    (h : ∀ a ∈ l, ∀ done trace, f (done, trace) a = (done ++ [g a], trace)) :
    l.foldl f (done, trace) = (done ++ l.map g, trace) := by
  induction l generalizing done with
  | nil => simp
  | cons a l ih =>
    rw [List.foldl_cons, h a List.mem_cons_self, ih fun b hb ↦ h b (List.mem_cons_of_mem _ hb)]
    simp

section Paragraphs

variable {α : Type} {ps : List α} {source : α → Text} {raw : α → List Text}
  {outcome : α → Nat → Outcome}

/-- Items, each with how many pieces of raw markup are set aside before it. -/
def numbered (raw : α → List Text) : Nat → List α → List (Nat × α)
  | _, [] => []
  | n, p :: ps => (n, p) :: numbered raw (n + (raw p).length) ps

/-- An item is numbered by what is set aside in front of it. -/
theorem exists_of_mem_numbered {n : Nat} {q : Nat × α} (hq : q ∈ numbered raw n ps) :
    ∃ before after, ps = before ++ q.2 :: after ∧ q.1 = n + (before.flatMap raw).length := by
  induction ps generalizing n with
  | nil => cases hq
  | cons p ps ih =>
    rcases List.mem_cons.mp hq with rfl | hq
    · exact ⟨[], ps, rfl, rfl⟩
    · obtain ⟨before, after, rfl, hnumber⟩ := ih hq
      exact ⟨p :: before, after, rfl, by simp [hnumber, Nat.add_assoc]⟩

theorem mem_of_mem_numbered {n : Nat} {q : Nat × α} (hq : q ∈ numbered raw n ps) : q.2 ∈ ps := by
  obtain ⟨before, after, rfl, -⟩ := exists_of_mem_numbered hq
  exact List.mem_append_right _ List.mem_cons_self

theorem map_snd_numbered {n : Nat} : (numbered raw n ps).map Prod.snd = ps := by
  induction ps generalizing n with
  | nil => rfl
  | cons p ps ih => rw [numbered, List.map_cons, ih]

theorem numbered_eq_map {n : Nat} (hraw : ∀ p ∈ ps, raw p = []) :
    numbered raw n ps = ps.map fun p ↦ (n, p) := by
  induction ps generalizing n with
  | nil => rfl
  | cons p ps ih =>
    rw [List.forall_mem_cons] at hraw
    rw [numbered, hraw.1, List.length_nil, Nat.add_zero, ih hraw.2, List.map_cons]

theorem visitAll_of_isReadFrom
    (hps : ∀ p ∈ ps, IsReadFrom setting (source p) (raw p) (outcome p))
    (hfuel : ps.length ≤ fuel) :
    visitAll setting fuel
        (ps.map fun p ↦ .mk "p" [] (some (.mk false (Pieces.ofText (source p)))) [] none) trace =
      ((numbered raw trace.rawHtml.length ps).map fun p ↦
          ⟨.mk "p" [] (outcome p.2 p.1).text [] none, (outcome p.2 p.1).found, false⟩,
        ⟨trace.rawHtml ++ ps.flatMap raw,
          trace.names ++ (numbered raw trace.rawHtml.length ps).flatMap fun p ↦
            (outcome p.2 p.1).names,
          trace.next + ((numbered raw trace.rawHtml.length ps).map fun p ↦
            (outcome p.2 p.1).count).sum⟩) := by
  induction ps generalizing fuel trace with
  | nil => cases fuel <;> simp [visitAll, numbered]
  | cons p ps ih =>
    obtain ⟨fuel, rfl⟩ : ∃ n, fuel = n + 1 := ⟨fuel - 1, by simp at hfuel; omega⟩
    have hp := hps p List.mem_cons_self
    have hopen : hasOpenText (some (.mk false (Pieces.ofText (source p)))) = true := by
      obtain ⟨c, t, hsource⟩ := List.exists_cons_of_ne_nil hp.notEmpty
      rw [hsource]
      rfl
    have hrest (trace : Trace) := @ih trace fuel (fun q hq ↦ hps q (List.mem_cons_of_mem _ hq))
      (Nat.le_of_succ_le_succ hfuel)
    have hnone (trace : Trace) : readRunText setting none trace = (none, [], trace) := rfl
    rw [List.map_cons, visitAll, hopen, if_pos rfl]
    simp only [hp.read, hnone, List.nil_append, hrest]
    simp [numbered, Nat.add_assoc]

theorem readChildren_of_isReadFrom
    (hps : ∀ p ∈ ps, IsReadFrom setting (source p) (raw p) (outcome p))
    (hfuel : ps.length ≤ fuel) :
    readChildren setting (fuel + 1)
        (ps.map fun p ↦ .mk "p" [] (some (.mk false (Pieces.ofText (source p)))) [] none) trace =
      ((numbered raw trace.rawHtml.length ps).map fun p ↦
          .mk "p" [] (outcome p.2 p.1).text (outcome p.2 p.1).found none,
        ⟨trace.rawHtml ++ ps.flatMap raw,
          trace.names ++ (numbered raw trace.rawHtml.length ps).flatMap fun p ↦
            (outcome p.2 p.1).names,
          trace.next + ((numbered raw trace.rawHtml.length ps).map fun p ↦
            (outcome p.2 p.1).count).sum⟩) := by
  rw [readChildren]
  simp only [visitAll_of_isReadFrom hps hfuel]
  rw [List.foldl_map]
  rw [foldl_eq_of_step
    (g := fun p ↦ .mk "p" [] (outcome p.2 p.1).text (outcome p.2 p.1).found none),
    List.nil_append]
  intro p hp done trace
  rw [foldl_eq_of_step (g := id)]
  · simp
  · intro e he done trace
    obtain ⟨tag, attrs, text, tail, rfl⟩ := (hps p.2 (mem_of_mem_numbered hp)).flat p.1 e he
    simp only [readChildren_nil, id]

theorem ofBlocks_paragraphs :
    ofBlocks (ps.map fun p ↦ .ofText "p" (source p)) =
      ps.map fun p ↦ .mk "p" [] (some (.mk false (Pieces.ofText (source p)))) [] none := by
  induction ps with
  | nil => rfl
  | cons p ps ih =>
    rw [List.map_cons, ofBlocks, ih]
    rfl

theorem finishedAll_paragraphs {outcome : α → Outcome} :
    finishedAll (ps.map fun p ↦ .mk "p" [] (outcome p).text (outcome p).found none) =
      ps.map fun p ↦
        .mk "p" [] (runText (outcome p).text) (finishedAll (outcome p).found) none := by
  induction ps with
  | nil => rfl
  | cons p ps ih =>
    rw [List.map_cons, finishedAll, finished, ih]
    rfl

theorem length_le_sizeAll {l : List Element} : l.length ≤ sizeAll l := by
  induction l with
  | nil => exact Nat.le_refl 0
  | cons e l ih =>
    have he : 1 ≤ size e := by
      cases e
      rw [size]
      omega
    rw [sizeAll, List.length_cons]
    omega

/-- **The paragraphs of a document are read one after another**, what is found in each becomes its
children, and what each sets aside is numbered on. -/
theorem read_of_isReadFrom (hps : ∀ p ∈ ps, IsReadFrom setting (source p) (raw p) (outcome p)) :
    read setting (.mk "div" [] none (ps.map fun p ↦ .ofText "p" (source p)) none) trace =
      (.mk "div" [] none ((numbered raw trace.rawHtml.length ps).map fun p ↦
          .mk "p" [] (runText (outcome p.2 p.1).text) (finishedAll (outcome p.2 p.1).found)
            none) none,
        ⟨trace.rawHtml ++ ps.flatMap raw,
          trace.names ++ (numbered raw trace.rawHtml.length ps).flatMap fun p ↦
            (outcome p.2 p.1).names,
          trace.next + ((numbered raw trace.rawHtml.length ps).map fun p ↦
            (outcome p.2 p.1).count).sum⟩) := by
  have hfuel : ps.length ≤ sizeAll (ps.map fun p ↦ .ofText "p" (source p)) :=
    (List.length_map _).symm.le.trans length_le_sizeAll
  have hroot : ps.length ≤
      8 * size (.mk "div" [] none (ps.map fun p ↦ .ofText "p" (source p)) none) + 63 := by
    rw [size]
    omega
  rw [read, ofBlock, ofBlocks_paragraphs]
  simp only [readChildren_of_isReadFrom hps hroot]
  rw [finished, @finishedAll_paragraphs (Nat × α) _ fun p ↦ outcome p.2 p.1]
  rfl

/-- The same where nothing is set aside. -/
theorem read_of_isRead {outcome : α → Outcome}
    (hps : ∀ p ∈ ps, IsRead setting (source p) (outcome p)) :
    read setting (.mk "div" [] none (ps.map fun p ↦ .ofText "p" (source p)) none) trace =
      (.mk "div" [] none (ps.map fun p ↦
          .mk "p" [] (runText (outcome p).text) (finishedAll (outcome p).found) none) none,
        { trace with
          names := trace.names ++ ps.flatMap fun p ↦ (outcome p).names
          next := trace.next + (ps.map fun p ↦ (outcome p).count).sum }) := by
  have hread := @read_of_isReadFrom setting trace α ps source (fun _ ↦ []) (fun p _ ↦ outcome p)
    fun p hp ↦ (hps p hp).isReadFrom
  have hnothing : ps.flatMap (fun _ ↦ ([] : List Text)) = [] :=
    List.flatMap_eq_nil_iff.mpr fun _ _ ↦ rfl
  rw [numbered_eq_map fun _ _ ↦ rfl, List.map_map, List.map_map, List.flatMap_map, hnothing,
    List.append_nil] at hread
  exact hread

end Paragraphs

end ApiSite.Markup.Inline
