import ApiSite.Model.Reading
import ApiSite.Proofs.Running

/-!
# What reading gives

Reading a model is put together from steps that can fail and give warnings. `Yields` says what holds
of all that a step can read; one rule for each way in which steps are put together carries it from
the parts of a document to the whole. Lists are gone through item by item, so what a step makes of
one item becomes a relation of two lists (`yields_forall₂_mapM`).
-/

set_option autoImplicit false

namespace ApiSite.Model

variable {α β γ : Type} {P : α → Prop}

/-! ### Steps -/

/-- Whatever a step reads, if it succeeds, has a property. -/
def Yields (P : α → Prop) (step : Reading α) : Prop :=
  ∀ s a s', step.runOn s = (.ok a, s') → P a

theorem yields_pure {a : α} (ha : P a) : Yields P (pure a : Reading α) := by
  intro s b s' hrun
  cases hrun
  exact ha

theorem yields_throw (error : Error) : Yields P (throw error : Reading α) := by
  intro s a s' hrun
  cases hrun

theorem yields_liftM {result : Except Error α} (hresult : ∀ a, result = .ok a → P a) :
    Yields P (liftM result : Reading α) := by
  cases result with
  | ok a => exact yields_pure (hresult a rfl)
  | error error => exact yields_throw error

theorem Yields.bind {Q : β → Prop} {step : Reading β} {next : β → Reading α}
    (hstep : Yields Q step) (hnext : ∀ b, Q b → Yields P (next b)) : Yields P (step >>= next) := by
  intro s a s' hrun
  obtain ⟨b, s₁, hfirst, hsecond⟩ := ExceptT.runOn_bind_eq_ok s hrun
  exact hnext b (hstep s b s₁ hfirst) s₁ a s' hsecond

/-- What a step gives does not depend on what an earlier one has given. -/
theorem yields_bind {step : Reading β} {next : β → Reading α} (hnext : ∀ b, Yields P (next b)) :
    Yields P (step >>= next) :=
  Yields.bind (Q := fun _ ↦ True) (fun _ _ _ _ ↦ trivial) fun b _ ↦ hnext b

theorem Yields.mapM {step : β → Reading α} {l : List β} (hstep : ∀ b ∈ l, Yields P (step b)) :
    Yields (fun results ↦ ∀ a ∈ results, P a) (l.mapM step) := by
  induction l with
  | nil => exact yields_pure fun a ha ↦ absurd ha List.not_mem_nil
  | cons b l ih =>
    rw [List.mapM_cons]
    refine (hstep b List.mem_cons_self).bind fun a ha ↦ ?_
    refine (ih fun b hb ↦ hstep b (List.mem_cons_of_mem _ hb)).bind fun results hresults ↦ ?_
    exact yields_pure (List.forall_mem_cons.mpr ⟨ha, hresults⟩)

/-- What items have become after a step, where it is known what they were before. -/
theorem yields_forall₂_mapM {T : γ → β → Prop} {R : γ → α → Prop} {step : β → Reading α}
    {cs : List γ} {bs : List β} (h : List.Forall₂ T cs bs)
    (hstep : ∀ c b, T c b → Yields (R c) (step b)) :
    Yields (List.Forall₂ R cs) (bs.mapM step) := by
  induction h with
  | nil => exact yields_pure .nil
  | cons hfirst _ ih =>
    rw [List.mapM_cons]
    refine (hstep _ _ hfirst).bind fun a ha ↦ ih.bind fun results hresults ↦ ?_
    exact yields_pure (.cons ha hresults)

/-- A step that is taken unless there is an error. -/
theorem yields_unless {isError : Bool} {error : Error} {next : PUnit → Reading α}
    (hnext : isError = false → Yields P (next ())) :
    Yields P (if isError = true then throw error >>= next else next ()) := by
  cases isError with
  | true => exact (yields_throw (P := fun _ ↦ False) error).bind fun _ hfalse ↦ hfalse.elim
  | false => exact hnext rfl

end ApiSite.Model
