import ApiSite.Proofs.Output.Rerun

/-!
# What writing depends on

Besides its files an output keeps what a run has counted and said. Writing never looks at that
(`IsFiling`): from two outputs with the same files (`files`) it answers the same and leaves the same
files. This holds for each step of the writer, and for what is put together from such steps.
-/

set_option autoImplicit false

namespace ApiSite.Output

variable {α β : Type} {o o' : Output}

/-- An output without what has been said and without what has been counted, files apart. -/
def files (o : Output) : Output :=
  { o with
    stats := { written := o.stats.written, deleted := o.stats.deleted }
    notices := [] }

/-- A step that does not look at what has been said, or at what has been counted besides files. -/
structure IsFiling (step : Writing α) : Prop where
  answer : ∀ {o o' : Output}, o.files = o'.files → (step.runOn o).1 = (step.runOn o').1
  files : ∀ {o o' : Output}, o.files = o'.files →
    (step.runOn o).2.files = (step.runOn o').2.files

/-! ### Steps put together -/

theorem isFiling_pure (a : α) : IsFiling (pure a : Writing α) := ⟨fun _ ↦ rfl, fun h ↦ h⟩

theorem isFiling_throw (error : Error) : IsFiling (throw error : Writing α) :=
  ⟨fun _ ↦ rfl, fun h ↦ h⟩

theorem isFiling_modify {f : Output → Output} (hf : ∀ o, (f o).files = (f o.files).files) :
    IsFiling (modify f : Writing PUnit) := by
  refine ⟨fun _ ↦ rfl, fun {o o'} h ↦ ?_⟩
  rw [ExceptT.runOn_modify, ExceptT.runOn_modify, hf o, hf o', h]

/-- One step after another. -/
theorem IsFiling.bind {step : Writing α} {next : α → Writing β} (hstep : IsFiling step)
    (hnext : ∀ a, IsFiling (next a)) : IsFiling (step >>= next) := by
  have hrun : ∀ {o o' : Output}, o.files = o'.files →
      ((step >>= next).runOn o).1 = ((step >>= next).runOn o').1 ∧
        ((step >>= next).runOn o).2.files = ((step >>= next).runOn o').2.files := by
    intro o o' h
    have hanswer := hstep.answer h
    have hfiles := hstep.files h
    rw [ExceptT.runOn_bind, ExceptT.runOn_bind]
    rcases hrun : step.runOn o with ⟨answer, s⟩
    rcases hrun' : step.runOn o' with ⟨answer', s'⟩
    rw [hrun, hrun'] at hanswer hfiles
    obtain rfl : answer = answer' := hanswer
    cases answer with
    | error error => exact ⟨rfl, hfiles⟩
    | ok a => exact ⟨(hnext a).answer hfiles, (hnext a).files hfiles⟩
  exact ⟨fun h ↦ (hrun h).1, fun h ↦ (hrun h).2⟩

/-- A step that looks at the files of the output. -/
theorem isFiling_get_bind {next : Output → Writing α} (hnext : ∀ o, IsFiling (next o))
    (hsame : ∀ o, next o.files = next o) : IsFiling (get >>= next) := by
  have hrun : ∀ o, (get >>= next).runOn o = (next o.files).runOn o := by
    intro o
    rw [ExceptT.runOn_bind, ExceptT.runOn_get, hsame]
  refine ⟨fun {o o'} h ↦ ?_, fun {o o'} h ↦ ?_⟩
  · rw [hrun, hrun, h]
    exact (hnext _).answer h
  · rw [hrun, hrun, h]
    exact (hnext _).files h

theorem isFiling_foldlM {step : β → α → Writing β} (hstep : ∀ b a, IsFiling (step b a))
    (l : List α) (b : β) : IsFiling (l.foldlM step b) := by
  induction l generalizing b with
  | nil => exact isFiling_pure b
  | cons a l ih =>
    rw [List.foldlM_cons]
    exact (hstep b a).bind ih

theorem isFiling_mapM {step : α → Writing β} (hstep : ∀ a, IsFiling (step a)) (l : List α) :
    IsFiling (l.mapM step) := by
  induction l with
  | nil =>
    rw [List.mapM_nil]
    exact isFiling_pure []
  | cons a l ih =>
    rw [List.mapM_cons]
    exact (hstep a).bind fun b ↦ ih.bind fun rest ↦ isFiling_pure (b :: rest)

/-! ### Steps of the writer -/

theorem isFiling_checkOpen : IsFiling checkOpen := by
  refine isFiling_get_bind (fun o ↦ ?_) fun _ ↦ rfl
  split
  · exact isFiling_throw _
  · exact isFiling_pure _

theorem isFiling_located (path : Text) : IsFiling (located path) := by
  refine isFiling_get_bind (fun o ↦ ?_) fun _ ↦ rfl
  split
  · exact isFiling_pure _
  · exact isFiling_throw _

theorem isFiling_looked (p : Path) : IsFiling (looked p) := by
  refine isFiling_get_bind (fun o ↦ ?_) fun _ ↦ rfl
  split
  · exact isFiling_pure _
  · exact isFiling_throw _

theorem isFiling_want (p : Path) (i : Intent) : IsFiling (want p i) :=
  isFiling_modify fun _ ↦ rfl

theorem isFiling_say (n : Notice) : IsFiling (modify (say n)) := isFiling_modify fun _ ↦ rfl

theorem isFiling_put (p : Path) (text : Text) : IsFiling (put p text) := by
  unfold put
  split
  · exact (isFiling_modify fun _ ↦ rfl).bind fun _ ↦ isFiling_throw _
  · refine isFiling_get_bind (fun o ↦ ?_) fun _ ↦ rfl
    split
    · exact isFiling_modify fun _ ↦ rfl
    · exact isFiling_throw _

theorem isFiling_update (p : Path) (text : Text) : IsFiling (update p text) := by
  refine (isFiling_looked p).bind fun found ↦ ?_
  split
  · exact (isFiling_modify fun _ ↦ rfl).bind fun _ ↦ isFiling_pure _
  · exact (isFiling_put p text).bind fun _ ↦ isFiling_pure _

theorem isFiling_create (p : Path) (text : Text) : IsFiling (create p text) := by
  refine (isFiling_looked p).bind fun found ↦ ?_
  split
  · exact isFiling_pure _
  · exact (isFiling_put p text).bind fun _ ↦ isFiling_pure _

theorem isFiling_restoreImport (p : Path) (line : Text) : IsFiling (restoreImport p line) := by
  refine (isFiling_looked p).bind fun found ↦ ?_
  split
  · exact isFiling_pure _
  · simp only
    split
    · exact isFiling_pure _
    · exact (isFiling_modify fun _ ↦ rfl).bind fun _ ↦ isFiling_pure _
  · exact isFiling_throw _

theorem Edit.isFiling_perform (e : Edit) : IsFiling e.perform := by
  cases e with
  | write path text =>
    refine isFiling_checkOpen.bind fun _ ↦ (isFiling_located path).bind fun p ↦ ?_
    refine isFiling_get_bind (fun o ↦ ?_) fun _ ↦ rfl
    have hend : IsFiling (do want p ⟨text, false⟩; update p text) :=
      (isFiling_want p _).bind fun _ ↦ isFiling_update p text
    simp only
    split
    · exact (isFiling_say _).bind fun _ ↦ hend
    · exact hend
  | scaffold path text =>
    exact isFiling_checkOpen.bind fun _ ↦ (isFiling_located path).bind fun p ↦
      (isFiling_want p _).bind fun _ ↦ isFiling_create p text
  | patch path line =>
    exact isFiling_checkOpen.bind fun _ ↦ (isFiling_located path).bind fun p ↦
      isFiling_restoreImport p line

theorem runOn_start (dirs : List Text) (o : Output) : (start dirs).runOn o =
    match o.disk.find? [] with
    | none | some .dir => (.ok (), o.started dirs)
    | some _ => (.error (.noDirectory o.root), o) := by
  simp only [start, ExceptT.runOn_bind, ExceptT.runOn_get]
  rcases o.disk.find? [] with _ | entry
  · rfl
  · cases entry <;> rfl

/-- To begin twice is to begin once. -/
theorem runOn_start_start (dirs dirs' : List Text) (next : Unit → Writing α) (o : Output) :
    (start dirs >>= fun _ ↦ start dirs' >>= next).runOn o = (start dirs' >>= next).runOn o := by
  rw [ExceptT.runOn_bind, ExceptT.runOn_bind, runOn_start, runOn_start]
  rcases hroot : o.disk.find? [] with _ | entry
  · simp only
    rw [ExceptT.runOn_bind, runOn_start]
    simp [started, hroot]
  · cases entry with
    | dir =>
      simp only
      rw [ExceptT.runOn_bind, runOn_start]
      simp [started, hroot]
    | _ => rfl

theorem isFiling_start (dirs : List Text) : IsFiling (start dirs) := by
  have hdisk {o o' : Output} (h : o.files = o'.files) : o.disk = o'.disk :=
    (congrArg Output.disk h : o.files.disk = o'.files.disk)
  have hroot {o o' : Output} (h : o.files = o'.files) : o.root = o'.root :=
    (congrArg Output.root h : o.files.root = o'.files.root)
  refine ⟨fun {o o'} h ↦ ?_, fun {o o'} h ↦ ?_⟩
  · rw [runOn_start, runOn_start, hdisk h, hroot h]
    split <;> rfl
  · have hstarted : (o.started dirs).files = (o'.started dirs).files :=
      (congrArg (fun s ↦ (started s dirs).files) h :
        (o.files.started dirs).files = (o'.files.started dirs).files)
    rw [runOn_start, runOn_start, hdisk h]
    split
    · exact hstarted
    · exact hstarted
    · exact h

theorem isFiling_finalize : IsFiling finalize := isFiling_modify fun _ ↦ rfl

theorem isFiling_cleanDir (deleted : List Path) (dir : Text) : IsFiling (cleanDir deleted dir) := by
  refine (isFiling_located dir).bind fun base ↦ (isFiling_looked base).bind fun found ↦ ?_
  split
  · exact isFiling_pure _
  · refine isFiling_get_bind (fun o ↦ ?_) fun _ ↦ rfl
    refine (isFiling_foldlM (fun deleted p ↦ ?_) _ _).bind fun deleted ↦ ?_
    · refine isFiling_get_bind (fun o ↦ ?_) fun _ ↦ rfl
      split
      · exact isFiling_pure _
      · exact (isFiling_modify fun _ ↦ rfl).bind fun _ ↦ isFiling_pure _
    · exact (isFiling_modify fun _ ↦ rfl).bind fun _ ↦ isFiling_pure _

theorem isFiling_deleteStale : IsFiling deleteStale := by
  refine isFiling_get_bind (fun o ↦ ?_) fun _ ↦ rfl
  have hend : IsFiling (do
      let deleted ← o.managed.foldlM cleanDir []
      modify fun o ↦
        { o with stats := { o.stats with deleted := o.stats.deleted + deleted.length } }
      return deleted) :=
    (isFiling_foldlM isFiling_cleanDir _ _).bind fun deleted ↦
      (isFiling_modify fun _ ↦ rfl).bind fun _ ↦ isFiling_pure deleted
  simp only
  split
  · exact (isFiling_throw _).bind fun _ ↦ hend
  · exact hend

end ApiSite.Output
