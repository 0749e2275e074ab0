import ApiSite.Proofs.Output.Files
import ApiSite.Proofs.Page.Steady
import ApiSite.Run.Generation

/-!
# What a run does to its files

A run loads, renders, logs and prints, and between all this it writes. A step that does not write
has an answer that depends on nothing but what it is asked for, and leaves the files alone
(`Answers`). A step that writes amounts to the step of the writer that it is made of (`AmountsTo`):
both succeed or both fail, and the files are the same after them.
-/

set_option autoImplicit false

namespace ApiSite.Run

variable {α β : Type} {s s' : State} {o : Output}

/-! ### Steps that do not write -/

/-- A step that has one answer in every state, and leaves the files as they are. -/
structure Answers (step : Running α) (answer : Except Error α) : Prop where
  answer : ∀ s, (step.runOn s).1 = answer
  files : ∀ s, (step.runOn s).2.output.files = s.output.files

theorem Answers.of_runOn {step : Running α} {answer : Except Error α} {f : State → State}
    (hrun : ∀ s, step.runOn s = (answer, f s))
    (hfiles : ∀ s, (f s).output.files = s.output.files) : Answers step answer :=
  ⟨fun s ↦ by rw [hrun], fun s ↦ by rw [hrun]; exact hfiles s⟩

theorem Answers.congr {step : Running α} {answer answer' : Except Error α}
    (h : Answers step answer) (heq : answer = answer') : Answers step answer' := heq ▸ h

theorem answers_pure (a : α) : Answers (pure a : Running α) (.ok a) :=
  .of_runOn (fun _ ↦ rfl) fun _ ↦ rfl

theorem answers_modify {f : State → State} (hf : ∀ s, (f s).output.files = s.output.files) :
    Answers (modify f) (.ok ()) :=
  .of_runOn (fun _ ↦ rfl) hf

theorem answers_logAll (lines : List LogLine) : Answers (logAll lines) (.ok ()) :=
  answers_modify fun _ ↦ rfl

theorem answers_print (line : Text) : Answers (print line) (.ok ()) := answers_modify fun _ ↦ rfl

@[simp] theorem runOn_check {ε : Type} (error : ε → Error) (result : Except ε α) (s : State) :
    (check error result).runOn s = (result.mapError error, s) := by
  cases result <;> rfl

theorem eq_ok_of_mapError {ε ε' : Type} {error : ε → ε'} {result : Except ε α} {a : α}
    (h : result.mapError error = .ok a) : result = .ok a := by
  cases result with
  | error e => cases h
  | ok b => exact congrArg Except.ok (Except.ok.inj h)

theorem eq_ok_of_check {ε : Type} {error : ε → Error} {result : Except ε α} {a : α}
    (h : (check error result).runOn s = (.ok a, s')) : result = .ok a := by
  rw [runOn_check, Prod.mk.injEq] at h
  exact eq_ok_of_mapError h.1

theorem answers_check {ε : Type} (error : ε → Error) (result : Except ε α) :
    Answers (check error result) (result.mapError error) :=
  .of_runOn (runOn_check error result) fun _ ↦ rfl

theorem answers_check_of_eq_ok {ε : Type} {result : Except ε α} {a : α} (error : ε → Error)
    (h : result = .ok a) : Answers (check error result) (.ok a) :=
  (answers_check error result).congr (by rw [h]; rfl)

/-- One step after another. -/
theorem Answers.bind {step : Running α} {next : α → Running β} {answer : Except Error α}
    {answers : α → Except Error β} (hstep : Answers step answer)
    (hnext : ∀ a, Answers (next a) (answers a)) :
    Answers (step >>= next) (answer >>= answers) := by
  refine ⟨fun s ↦ ?_, fun s ↦ ?_⟩
  · rw [← hstep.answer s, ExceptT.runOn_bind]
    rcases step.runOn s with ⟨error | a, s₁⟩
    · rfl
    · exact (hnext a).answer s₁
  · rw [← hstep.files s, ExceptT.runOn_bind]
    rcases step.runOn s with ⟨error | a, s₁⟩
    · rfl
    · exact (hnext a).files s₁

/-- One step after another that succeeds. -/
theorem Answers.bind_ok {step : Running α} {next : α → Running β} {a : α}
    {answer : Except Error β} (hstep : Answers step (.ok a)) (hnext : Answers (next a) answer) :
    Answers (step >>= next) answer := by
  have hrun : ∀ s, (step >>= next).runOn s = (next a).runOn (step.runOn s).2 := by
    intro s
    have hfirst : step.runOn s = (.ok a, (step.runOn s).2) := Prod.ext (hstep.answer s) rfl
    rw [ExceptT.runOn_bind, hfirst]
  refine ⟨fun s ↦ ?_, fun s ↦ ?_⟩
  · rw [hrun]
    exact hnext.answer _
  · rw [hrun]
    exact (hnext.files _).trans (hstep.files s)

/-- A step that looks at the state, whatever that is. -/
theorem answers_get_bind {next : State → Running α} {answer : Except Error α}
    (hnext : ∀ s, Answers (next s) answer) : Answers (get >>= next) answer :=
  ⟨fun s ↦ (hnext s).answer s, fun s ↦ (hnext s).files s⟩

/-- A step for each item of a list, in a loop. -/
theorem answers_forIn {step : α → Running PUnit} (hstep : ∀ a, Answers (step a) (.ok PUnit.unit))
    (l : List α) : Answers (forIn l PUnit.unit fun a _ ↦ do
      step a
      pure (ForInStep.yield PUnit.unit) : Running PUnit) (.ok PUnit.unit) := by
  induction l with
  | nil => exact answers_pure _
  | cons a l ih =>
    rw [List.forIn_cons]
    refine ((hstep a).bind_ok (answers_pure (ForInStep.yield PUnit.unit))).bind_ok ?_
    exact ih

theorem runOn_rendering (step : Doc.Rendering α) (s : State) :
    (rendering step).runOn s =
      let (answer, progress) := step.runOn { stats := s.output.stats }
      (answer.mapError .rendering, { s with
        output := { s.output with stats := progress.stats }
        log := s.log ++
          (progress.removals.map Sanitize.Removal.message).map (⟨.warning, ·⟩) }) := by
  rcases hstep : step.runOn { stats := s.output.stats } with ⟨answer, progress⟩
  have hrun : step.run.run { stats := s.output.stats } = (answer, progress) := hstep
  simp only [rendering, ExceptT.runOn_bind, ExceptT.runOn_get, hrun, ExceptT.runOn_set, warn,
    logAll, ExceptT.runOn_modify, runOn_check]

/-- Rendering within a run. -/
theorem answers_rendering {step : Doc.Rendering α} (h : Doc.IsSteady step) :
    Answers (rendering step) ((step.runOn {}).1.mapError .rendering) := by
  refine ⟨fun s ↦ ?_, fun s ↦ ?_⟩
  · rw [runOn_rendering, h.answer {} { stats := s.output.stats }]
  · have hwritten := h.written { stats := s.output.stats }
    have hdeleted := h.deleted { stats := s.output.stats }
    rw [runOn_rendering]
    simp only [Output.files, hwritten, hdeleted]

/-- If a step succeeds, its answer is known, and the files are as before. -/
theorem Answers.of_eq_ok {step : Running α} {answer : Except Error α} {a : α}
    (h : Answers step answer) (hrun : step.runOn s = (.ok a, s')) :
    answer = .ok a ∧ s'.output.files = s.output.files := by
  have hanswer := h.answer s
  have hfiles := h.files s
  rw [hrun] at hanswer hfiles
  exact ⟨hanswer.symm, hfiles⟩

/-- A step whose answer is known succeeds, and the files are as before. -/
theorem Answers.exists_runOn {step : Running α} {a : α} (h : Answers step (.ok a)) (s : State) :
    ∃ s', step.runOn s = (.ok a, s') ∧ s'.output.files = s.output.files :=
  ⟨(step.runOn s).2, Prod.ext (h.answer s) rfl, h.files s⟩

/-! ### Steps that write -/

/-- A step of a run amounts to a step of the writer: where one succeeds the other does too, with the
same answer, and they leave the same files. -/
structure AmountsTo (step : Running α) (writer : Writing α) : Prop where
  forth : ∀ {s s' : State} {o : Output} {a : α}, s.output.files = o.files →
    step.runOn s = (.ok a, s') →
      ∃ o', writer.runOn o = (.ok a, o') ∧ s'.output.files = o'.files
  back : ∀ {s : State} {o o' : Output} {a : α}, s.output.files = o.files →
    writer.runOn o = (.ok a, o') →
      ∃ s', step.runOn s = (.ok a, s') ∧ s'.output.files = o'.files

theorem runOn_writing (step : Writing α) (s : State) :
    (writing step).runOn s =
      let (answer, output) := step.runOn { s.output with notices := [] }
      (answer.mapError .writing, { s with
        output := { output with notices := [] }
        log := s.log ++ output.notices.map noticeLine }) := by
  rcases hstep : step.runOn { s.output with notices := [] } with ⟨answer, output⟩
  have hrun : step.run.run { s.output with notices := [] } = (answer, output) := hstep
  simp only [writing, ExceptT.runOn_bind, ExceptT.runOn_get, hrun, ExceptT.runOn_set, logAll,
    ExceptT.runOn_modify, runOn_check]

/-- Writing within a run. -/
theorem amountsTo_writing {step : Writing α} (h : Output.IsFiling step) :
    AmountsTo (writing step) step := by
  constructor
  · intro s s' o a hfiles hrun
    have hfiles' : Output.files { s.output with notices := [] } = o.files := hfiles
    rw [runOn_writing, Prod.mk.injEq] at hrun
    obtain ⟨hanswer, rfl⟩ := hrun
    refine ⟨(step.runOn o).2, Prod.ext ?_ rfl, ?_⟩
    · rw [← h.answer hfiles']
      exact eq_ok_of_mapError hanswer
    · exact h.files hfiles'
  · intro s o o' a hfiles hrun
    have hfiles' : Output.files { s.output with notices := [] } = o.files := hfiles
    have hanswer := h.answer hfiles'
    have hsame := h.files hfiles'
    rw [hrun] at hanswer hsame
    refine ⟨((writing step).runOn s).2, Prod.ext ?_ rfl, ?_⟩
    · rw [runOn_writing]
      simp only [hanswer]
      rfl
    · rw [runOn_writing]
      exact hsame

theorem amountsTo_modify {f : State → State} {g : Output → Output}
    (h : ∀ s o, s.output.files = o.files → (f s).output.files = (g o).files) :
    AmountsTo (modify f) (modify g) := by
  constructor
  · intro s s' o _ hfiles hrun
    rw [ExceptT.runOn_modify, Prod.mk.injEq] at hrun
    exact ⟨g o, rfl, hrun.2 ▸ h s o hfiles⟩
  · intro s o o' _ hfiles hrun
    rw [ExceptT.runOn_modify, Prod.mk.injEq] at hrun
    exact ⟨f s, rfl, hrun.2 ▸ h s o hfiles⟩

theorem AmountsTo.congr {step : Running α} {writer writer' : Writing α}
    (h : AmountsTo step writer) (heq : ∀ o, writer.runOn o = writer'.runOn o) :
    AmountsTo step writer' :=
  ⟨fun hfiles hrun ↦ by simpa only [heq] using h.forth hfiles hrun,
    fun hfiles hrun ↦ h.back hfiles (by rw [heq]; exact hrun)⟩

theorem AmountsTo.bind {step : Running α} {writer : Writing α} {next : α → Running β}
    {nextWriter : α → Writing β} (hstep : AmountsTo step writer)
    (hnext : ∀ a, AmountsTo (next a) (nextWriter a)) :
    AmountsTo (step >>= next) (writer >>= nextWriter) := by
  constructor
  · intro s s' o b hfiles hrun
    obtain ⟨a, s₁, hfirst, hrest⟩ := ExceptT.runOn_bind_eq_ok s hrun
    obtain ⟨o₁, hfirst', hfiles₁⟩ := hstep.forth hfiles hfirst
    obtain ⟨o', hrest', hfiles'⟩ := (hnext a).forth hfiles₁ hrest
    exact ⟨o', by rw [ExceptT.runOn_bind, hfirst']; exact hrest', hfiles'⟩
  · intro s o o' b hfiles hrun
    obtain ⟨a, o₁, hfirst, hrest⟩ := ExceptT.runOn_bind_eq_ok o hrun
    obtain ⟨s₁, hfirst', hfiles₁⟩ := hstep.back hfiles hfirst
    obtain ⟨s', hrest', hfiles'⟩ := (hnext a).back hfiles₁ hrest
    exact ⟨s', by rw [ExceptT.runOn_bind, hfirst']; exact hrest', hfiles'⟩

/-- A step that does not write amounts to its answer. -/
theorem Answers.amountsTo {step : Running α} {a : α} (h : Answers step (.ok a)) :
    AmountsTo step (pure a) := by
  constructor
  · intro s s' o b hfiles hrun
    obtain ⟨heq, hsame⟩ := h.of_eq_ok hrun
    obtain rfl : a = b := Except.ok.inj heq
    exact ⟨o, rfl, hsame.trans hfiles⟩
  · intro s o o' b hfiles hrun
    rw [ExceptT.runOn_pure, Prod.mk.injEq] at hrun
    obtain ⟨heq, rfl⟩ := hrun
    obtain rfl : a = b := Except.ok.inj heq
    obtain ⟨s', hrun', hsame⟩ := h.exists_runOn s
    exact ⟨s', hrun', hsame.trans hfiles⟩

/-- A step that does not write comes before one that amounts to a step of the writer. -/
theorem Answers.bind_amountsTo {step : Running α} {a : α} {next : α → Running β}
    {writer : Writing β} (hstep : Answers step (.ok a)) (hnext : AmountsTo (next a) writer) :
    AmountsTo (step >>= next) writer := by
  constructor
  · intro s s' o b hfiles hrun
    obtain ⟨a', s₁, hfirst, hrest⟩ := ExceptT.runOn_bind_eq_ok s hrun
    obtain ⟨heq, hsame⟩ := hstep.of_eq_ok hfirst
    obtain rfl : a = a' := Except.ok.inj heq
    exact hnext.forth (hsame.trans hfiles) hrest
  · intro s o o' b hfiles hrun
    obtain ⟨s₁, hfirst, hsame⟩ := hstep.exists_runOn s
    obtain ⟨s', hrest, hfiles'⟩ := hnext.back (hsame.trans hfiles) hrun
    exact ⟨s', by rw [ExceptT.runOn_bind, hfirst]; exact hrest, hfiles'⟩

end ApiSite.Run
