import Mathlib.Data.List.Forall2

/-!
# Steps that keep a state and can fail

Writing the output and rendering documentation are steps of this kind. `runOn` takes a step on a
state; the lemmas here say what that gives for each way in which steps are put together. Steps for
the items of a list give results that are related to the items one by one.
-/

set_option autoImplicit false

namespace List

variable {α β : Type}

theorem Forall₂.exists_left {R : α → β → Prop} {as : List α} {bs : List β}
    (h : Forall₂ R as bs) {b : β} (hb : b ∈ bs) : ∃ a ∈ as, R a b := by
  induction h with
  | nil => exact absurd hb not_mem_nil
  | @cons a _ _ _ hfirst _ ih =>
    rcases mem_cons.mp hb with rfl | hb
    · exact ⟨a, mem_cons_self, hfirst⟩
    · obtain ⟨a', ha', hR⟩ := ih hb
      exact ⟨a', mem_cons_of_mem _ ha', hR⟩

end List

namespace ExceptT

variable {ε σ α β : Type}

/-- What a step answers and the state that it leaves. -/
def runOn (step : ExceptT ε (StateM σ) α) (s : σ) : Except ε α × σ := (step.run.run s).run

variable (s : σ)

@[simp] theorem runOn_pure (a : α) : (pure a : ExceptT ε (StateM σ) α).runOn s = (.ok a, s) := rfl

@[simp] theorem runOn_throw (e : ε) :
    (throw e : ExceptT ε (StateM σ) α).runOn s = (.error e, s) := rfl

@[simp] theorem runOn_get : (get : ExceptT ε (StateM σ) σ).runOn s = (.ok s, s) := rfl

@[simp] theorem runOn_set (s' : σ) :
    (set s' : ExceptT ε (StateM σ) PUnit).runOn s = (.ok (), s') := rfl

@[simp] theorem runOn_modify (f : σ → σ) :
    (modify f : ExceptT ε (StateM σ) PUnit).runOn s = (.ok (), f s) := rfl

/-- A step followed by another one: the second is not taken where the first fails. -/
theorem runOn_bind (step : ExceptT ε (StateM σ) α) (next : α → ExceptT ε (StateM σ) β) :
    (step >>= next).runOn s =
      match step.runOn s with
      | (.ok a, s) => (next a).runOn s
      | (.error e, s) => (.error e, s) := by
  simp only [runOn, ExceptT.run_bind, StateT.run_bind]
  rcases step.run.run s with ⟨answer, after⟩
  cases answer <;> rfl

/-- A step whose answer is turned into another one: no failure is added and no state changed. -/
theorem runOn_bind_pure (step : ExceptT ε (StateM σ) α) (f : α → β) :
    (step >>= fun a ↦ pure (f a)).runOn s = ((step.runOn s).1.map f, (step.runOn s).2) := by
  rw [runOn_bind]
  rcases step.runOn s with ⟨answer | a, after⟩ <;> rfl

/-- A step that succeeds after another one: the first has succeeded too. -/
theorem runOn_bind_eq_ok {s' : σ} {b : β} {step : ExceptT ε (StateM σ) α}
    {next : α → ExceptT ε (StateM σ) β} (h : (step >>= next).runOn s = (.ok b, s')) :
    ∃ a s₁, step.runOn s = (.ok a, s₁) ∧ (next a).runOn s₁ = (.ok b, s') := by
  rw [runOn_bind] at h
  rcases hstep : step.runOn s with ⟨answer | a, s₁⟩
  · rw [hstep] at h
    cases h
  · rw [hstep] at h
    exact ⟨a, s₁, rfl, h⟩

/-- Of steps for the items of a list that all succeed, each has succeeded. -/
theorem exists_result_of_runOn_mapM {step : α → ExceptT ε (StateM σ) β} {l : List α}
    {results : List β} {s s' : σ} (h : (l.mapM step).runOn s = (.ok results, s')) {a : α}
    (ha : a ∈ l) : ∃ b ∈ results, ∃ s s', (step a).runOn s = (.ok b, s') := by
  induction l generalizing results s s' with
  | nil => exact absurd ha List.not_mem_nil
  | cons first l ih =>
    rw [List.mapM_cons] at h
    obtain ⟨b, s₁, hfirst, h⟩ := runOn_bind_eq_ok s h
    obtain ⟨rest, s₂, hrest, h⟩ := runOn_bind_eq_ok s₁ h
    simp only [runOn_pure, Prod.mk.injEq, Except.ok.injEq] at h
    rw [← h.1]
    rcases List.mem_cons.mp ha with rfl | ha
    · exact ⟨b, List.mem_cons_self, s, s₁, hfirst⟩
    · obtain ⟨b', hmem, hstep⟩ := ih hrest ha
      exact ⟨b', List.mem_cons_of_mem _ hmem, hstep⟩

end ExceptT

namespace Except

variable {ε α β : Type}

theorem exists_of_bind_eq_ok {result : Except ε α} {next : α → Except ε β} {b : β}
    (h : result >>= next = .ok b) : ∃ a, result = .ok a ∧ next a = .ok b := by
  cases result with
  | error error => cases h
  | ok a => exact ⟨a, rfl, h⟩

theorem mapM_cons_eq_ok_iff {f : α → Except ε β} {a : α} {l : List α} {results : List β} :
    (a :: l).mapM f = .ok results ↔
      ∃ b rest, f a = .ok b ∧ l.mapM f = .ok rest ∧ results = b :: rest := by
  rw [List.mapM_cons]
  cases f a with
  | error error => simp [bind, Except.bind]
  | ok b => cases l.mapM f <;> simp [bind, Except.bind, pure, Except.pure, eq_comm]

/-- Each of the results for the items of a list is that for one of them. -/
theorem exists_item_of_mapM {f : α → Except ε β} {l : List α} {results : List β}
    (h : l.mapM f = .ok results) {b : β} (hb : b ∈ results) : ∃ a ∈ l, f a = .ok b := by
  induction l generalizing results with
  | nil =>
    cases h
    exact absurd hb List.not_mem_nil
  | cons a l ih =>
    obtain ⟨first, rest, hfirst, hrest, rfl⟩ := mapM_cons_eq_ok_iff.mp h
    rcases List.mem_cons.mp hb with rfl | hb
    · exact ⟨a, List.mem_cons_self, hfirst⟩
    · obtain ⟨a', ha', hstep⟩ := ih hrest hb
      exact ⟨a', List.mem_cons_of_mem _ ha', hstep⟩

/-- The results for the items of a list are theirs one by one. -/
theorem forall₂_of_mapM {f : α → Except ε β} {l : List α} {results : List β}
    (h : l.mapM f = .ok results) : List.Forall₂ (fun a b ↦ f a = .ok b) l results := by
  induction l generalizing results with
  | nil =>
    cases h
    exact .nil
  | cons a l ih =>
    obtain ⟨b, rest, hfirst, hrest, rfl⟩ := mapM_cons_eq_ok_iff.mp h
    exact .cons hfirst (ih hrest)

end Except
