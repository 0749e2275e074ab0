import ApiSite.Proofs.Output.Calls

/-!
# What a run leaves alone

`Protects` lists what a run may do to files, whatever it calls and in whatever order. A file that
was there changes only by an accepted write or patch of it, and goes only if it is stale when stale
files are deleted after the end of writing. Nothing happens to files that are not below the
directory of the output. Scaffold files never replace anything. A call that is refused leaves the
whole output as it was.

The main result is `protects_of_start`: every run that begins with a tree without links protects
files so.
-/

set_option autoImplicit false

namespace ApiSite.Output

variable {o o' : Output} {p q base : Path} {calls : List Call} {c : Call}

/-! ### The begin of a run -/

/-- A run begins where its directory can be, and wants nothing yet. -/
theorem runOn_start_eq_ok_iff (dirs : List Text) :
    (start dirs).runOn o = (.ok (), o') ↔
      (o.disk.find? [] = none ∨ o.disk.find? [] = some .dir) ∧
        o' = { o with managed := managedDirs dirs, intents := [], isFinal := false } := by
  simp only [start, ExceptT.runOn_bind, ExceptT.runOn_get]
  cases hroot : o.disk.find? [] with
  | none => simp [eq_comm]
  | some entry => cases entry <;> simp [eq_comm]

/-- A run that has begun and called for nothing yet. -/
structure Fresh (o : Output) : Prop extends o.Ready where
  isOpen : o.isFinal = false
  intents : o.intents = []

theorem fresh_of_start {dirs : List Text} (htree : o.disk.IsTree) (hlinks : o.disk.HasNoLinks)
    (hstart : (start dirs).runOn o = (.ok (), o'))
    (hmanaged : ∀ dir ∈ managedDirs dirs, ∃ base, o.locate dir = .ok base) : o'.Fresh := by
  obtain ⟨-, rfl⟩ := (runOn_start_eq_ok_iff dirs).mp hstart
  exact ⟨⟨htree, hlinks, hmanaged⟩, rfl, rfl⟩

theorem Fresh.isFinal_after (h : o.Fresh) : (o.after calls).isFinal = true ↔ .finalize ∈ calls := by
  simp [h.toReady.isFinal_after, h.isOpen]

theorem Fresh.isWanted_after (h : o.Fresh) : (o.after calls).isWanted q = true ↔
    ∃ e : Edit, o.HasAccepted calls e q ∧ e.intent?.isSome := by
  have hnone : o.isWanted q = false := by rw [isWanted, h.intents, List.any_nil]
  rw [h.toReady.isWanted_after, hnone]
  simp

/-! ### Files that change and files that go -/

/-- What has been accepted before the end of writing is all that is accepted. -/
theorem HasAccepted.of_isFinal (h : o.Ready) {earlier later : List Call} {e : Edit}
    (hfinal : (o.after earlier).isFinal = true) (haccepted : o.HasAccepted (earlier ++ later) e q) :
    o.HasAccepted earlier e q := by
  induction later using List.reverseRecOn with
  | nil => simpa using haccepted
  | append_singleton later c ih =>
    rw [← List.append_assoc, hasAccepted_concat] at haccepted
    refine haccepted.elim ih fun ⟨_, haccepts⟩ ↦ ?_
    have hlater : (o.after (earlier ++ later)).isFinal = true := by
      rw [h.isFinal_after] at hfinal ⊢
      exact hfinal.imp_right (List.mem_append_left _)
    rw [haccepts.isOpen] at hlater
    cases hlater

/-- Once writing has ended, no file appears. -/
theorem Ready.text?_after_of_isFinal (h : o.Ready) (calls : List Call) (hfinal : o.isFinal = true)
    (hnone : o.disk.text? q = none) : (o.after calls).disk.text? q = none := by
  by_contra hsome
  obtain ⟨earlier, c, -, hbefore, hafter⟩ :=
    exists_call (P := fun s ↦ s.disk.text? q = none) hnone hsome
  have hready := h.after earlier
  have hchange : (c.perform.runOn (o.after earlier)).2.disk.text? q ≠
      (o.after earlier).disk.text? q := fun heq ↦ hafter (heq.trans hbefore)
  rcases (c.step hready).cause hchange with ⟨e, -, haccepts, -⟩ | ⟨-, -, -, -, hgone⟩
  · have hlater := (h.isFinal_after earlier).mpr (Or.inl hfinal)
    rw [haccepts.isOpen] at hlater
    cases hlater
  · exact hafter hgone

/-- The call that changes the text of a file. -/
theorem Ready.exists_edit {t u : Text} (h : o.Ready) (hfile : o.disk.text? q = some t)
    (hlater : (o.after calls).disk.text? q = some u) (hne : u ≠ t) :
    ∃ earlier e, earlier ++ [.edit e] <+: calls ∧ (o.after earlier).Accepts e q ∧
      e.mayRewrite = true ∧ (e.perform.runOn (o.after earlier)).1 = .ok true := by
  have hafter : (o.after calls).disk.text? q ≠ some t := by
    rw [hlater]
    exact fun heq ↦ hne (Option.some.inj heq)
  obtain ⟨earlier, c, hbegin, hbefore, hafter⟩ :=
    exists_call (P := fun s ↦ s.disk.text? q = some t) hfile hafter
  have hstep := c.step (h.after earlier)
  rcases hstep.cause fun heq ↦ hafter (heq.trans hbefore) with
    ⟨e, rfl, haccepts, hanswer, houtcome⟩ | ⟨-, hfinal, -, -, hgone⟩
  · refine ⟨earlier, e, hbegin, haccepts, ?_, hanswer⟩
    by_contra hkeeps
    rw [Disk.text?_eq_some_iff] at hbefore
    refine hafter (Disk.text?_eq_some_iff.mpr ?_)
    exact houtcome.keeps_file hbefore (Or.inr (eq_false_of_ne_true hkeeps))
  · -- A file that has been deleted does not come back.
    obtain ⟨later, rfl⟩ := hbegin
    have hnone := (hstep.ready (h.after earlier)).text?_after_of_isFinal later
      (hstep.isFinal_iff.mpr (Or.inl hfinal)) hgone
    rw [after_append, after_concat, hnone] at hlater
    cases hlater

/-- The call that deletes a file. -/
theorem Ready.exists_deletion {t : Text} (h : o.Ready) (hfile : o.disk.text? q = some t)
    (hgone : (o.after calls).disk.text? q = none) :
    ∃ earlier, earlier ++ [.deleteStale] <+: calls ∧ (o.after earlier).isFinal = true ∧
      (o.after earlier).isWanted q = false ∧
      ∃ base ∈ o.managedPlaces, Path.isBelow base q = true := by
  have hafter : ¬∃ t, (o.after calls).disk.text? q = some t := by simp [hgone]
  obtain ⟨earlier, c, hbegin, ⟨u, hbefore⟩, hafter⟩ :=
    exists_call (P := fun s ↦ ∃ t, s.disk.text? q = some t) ⟨t, hfile⟩ hafter
  rcases (c.step (h.after earlier)).cause fun heq ↦ hafter ⟨u, heq.trans hbefore⟩ with
    ⟨e, rfl, -, -, houtcome⟩ | ⟨rfl, hfinal, hunwanted, hbase, -⟩
  · obtain ⟨v, hstays⟩ := houtcome.file_stays (Disk.text?_eq_some_iff.mp hbefore)
    exact absurd ⟨v, Disk.text?_eq_some_iff.mpr hstays⟩ hafter
  · exact ⟨earlier, hbegin, hfinal, hunwanted, h.managedPlaces_after earlier ▸ hbase⟩

/-! ### Runs -/

/-- What a run may do to files, and that it leaves everything as it was where it refuses a call. -/
structure Protects (o : Output) (calls : List Call) : Prop where
  /-- The text of a file that was there changes only by a write or a patch of this file that is
  accepted. -/
  text : ∀ {q : Path} {t u : Text}, o.disk.find? q = some (.file t) →
    (o.after calls).disk.find? q = some (.file u) → u ≠ t →
    ∃ earlier e, earlier ++ [.edit e] <+: calls ∧ (o.after earlier).Accepts e q ∧
      e.mayRewrite = true ∧ (e.perform.runOn (o.after earlier)).1 = .ok true
  /-- A file that was there goes only if stale files are deleted after the end of writing, it is
  below a managed directory, and nothing but patches of it has been accepted. -/
  file : ∀ {q : Path} {t : Text}, o.disk.find? q = some (.file t) →
    (∀ u, (o.after calls).disk.find? q ≠ some (.file u)) →
    (∃ earlier, earlier ++ [.deleteStale] <+: calls ∧ .finalize ∈ earlier) ∧
      (∃ base ∈ o.managedPlaces, Path.isBelow base q = true) ∧
      ∀ e, o.HasAccepted calls e q → e.intent? = none
  /-- A file that appears, changes or goes is below the directory of the output: the path of an
  edit leads to it, or it is below the place that a managed directory leads to. -/
  inside : ∀ {q : Path}, (o.after calls).disk.text? q ≠ o.disk.text? q → q ≠ [] ∧
    ((∃ e, .edit e ∈ calls ∧ o.follow e.path = .ok (o.root ++ q)) ∨
      ∃ dir ∈ o.managed, ∃ base, base ≠ [] ∧ o.follow dir = .ok (o.root ++ base) ∧
        Path.isBelow base q = true)
  /-- A scaffold file never changes a file. -/
  scaffold : ∀ {path text : Text} {q : Path} {t : Text},
    (o.after calls).disk.find? q = some (.file t) →
    ((writeScaffold path text).runOn (o.after calls)).2.disk.find? q = some (.file t)
  /-- A call that is refused changes nothing at all. -/
  refused : ∀ {c : Call} {error : Error}, (c.perform.runOn (o.after calls)).1 = .error error →
    error ≠ .blocked → (c.perform.runOn (o.after calls)).2 = o.after calls
  /-- After the end of writing every edit is refused. -/
  finalized : .finalize ∈ calls → ∀ e : Edit,
    (e.perform.runOn (o.after calls)).1 = .error .finalized
  /-- Before the end of writing the deletion of stale files is refused. -/
  unfinished : .finalize ∉ calls → (deleteStale.runOn (o.after calls)).1 = .error .unfinished
  /-- Before the end of writing an edit is refused whose path does not lead below the directory of
  the output. -/
  outside : .finalize ∉ calls → ∀ e : Edit, (∀ p, p ≠ [] → o.follow e.path ≠ .ok (o.root ++ p)) →
    (e.perform.runOn (o.after calls)).1 = .error .nullCharacter ∨
      (e.perform.runOn (o.after calls)).1 = .error (.outside e.path)

theorem locate_outside {path : Text} (hlinks : o.disk.HasNoLinks)
    (houtside : ∀ p, p ≠ [] → o.follow path ≠ .ok (o.root ++ p)) :
    o.locate path = .error .nullCharacter ∨ o.locate path = .error (.outside path) := by
  rcases hlocate : o.locate path with error | p
  · unfold locate at hlocate
    split at hlocate
    · exact Or.inl hlocate.symm
    · rw [follow_of_hasNoLinks hlinks] at hlocate
      simp only at hlocate
      split at hlocate
      · cases hlocate
      · exact Or.inr hlocate.symm
  · obtain ⟨-, hfollow, hne⟩ := locate_eq_ok_iff.mp hlocate
    exact absurd hfollow (houtside p hne)

/-- A call that fails for another reason than that something stands in the way changes nothing. -/
theorem Call.Step.eq_of_refused {result : Except Error Unit × Output} {error : Error}
    (h : c.Step o result) (hrefused : result.1 = .error error) (hne : error ≠ .blocked) :
    result.2 = o := by
  cases h with
  | refused | unfinished => rfl
  | finalized => cases hrefused
  | edited e p _ haccepted =>
    rcases hanswer : (e.perform.runOn o).1 with error' | changed
    · rw [hanswer] at hrefused
      cases hrefused
      exact absurd (hanswer ▸ haccepted.outcome).eq_blocked hne
    · rw [hanswer] at hrefused
      cases hrefused
  | swept gone answer o' _ _ hanswer => exact absurd (hanswer error hrefused) hne

/-- A file that was there and is gone after a run was stale. -/
theorem Fresh.stale_of_gone {t : Text} (h : o.Fresh) (hfile : o.disk.text? q = some t)
    (hgone : (o.after calls).disk.text? q = none) :
    (∃ earlier, earlier ++ [.deleteStale] <+: calls ∧ .finalize ∈ earlier) ∧
      (∃ base ∈ o.managedPlaces, Path.isBelow base q = true) ∧
      ∀ e, o.HasAccepted calls e q → e.intent? = none := by
  obtain ⟨earlier, hbegin, hfinal, hunwanted, hbase⟩ := h.exists_deletion hfile hgone
  refine ⟨⟨earlier, hbegin, h.isFinal_after.mp hfinal⟩, hbase, fun e haccepted ↦ ?_⟩
  obtain ⟨later, rfl⟩ := hbegin
  rw [List.append_assoc] at haccepted
  have hearlier := haccepted.of_isFinal h.toReady hfinal
  by_contra hwants
  have hwanted := h.isWanted_after.mpr ⟨e, hearlier, Option.isSome_iff_ne_none.mpr hwants⟩
  rw [hunwanted] at hwanted
  cases hwanted

/-- A file that appears, changes or goes is below the directory of the output. -/
theorem Fresh.inside_of_change (h : o.Fresh)
    (hchange : (o.after calls).disk.text? q ≠ o.disk.text? q) : q ≠ [] ∧
    ((∃ e, .edit e ∈ calls ∧ o.follow e.path = .ok (o.root ++ q)) ∨
      ∃ dir ∈ o.managed, ∃ base, base ≠ [] ∧ o.follow dir = .ok (o.root ++ base) ∧
        Path.isBelow base q = true) := by
  obtain ⟨earlier, c, hbegin, hbefore, hafter⟩ :=
    exists_call (P := fun s ↦ s.disk.text? q = o.disk.text? q) rfl hchange
  rcases (c.step (h.after earlier)).cause fun heq ↦ hafter (heq.trans hbefore) with
    ⟨e, rfl, haccepts, -⟩ | ⟨-, -, -, ⟨base, hbase, hbelow⟩, -⟩
  · have hlocate := haccepts.locate
    rw [h.locate_after] at hlocate
    obtain ⟨-, hfollow, hne⟩ := locate_eq_ok_iff.mp hlocate
    exact ⟨hne, Or.inl ⟨e, hbegin.subset (List.mem_append_right _ List.mem_cons_self), hfollow⟩⟩
  · rw [h.managedPlaces_after, mem_managedPlaces] at hbase
    obtain ⟨dir, hdir, hlocate⟩ := hbase
    obtain ⟨-, hfollow, hne⟩ := locate_eq_ok_iff.mp hlocate
    refine ⟨?_, Or.inr ⟨dir, hdir, base, hne, hfollow, hbelow⟩⟩
    rintro rfl
    exact absurd (Path.length_lt_of_isBelow hbelow) (Nat.not_lt_zero _)

/-- Asking for a scaffold file changes no file. -/
theorem find?_of_writeScaffold {path text t : Text} (hfile : o.disk.find? q = some (.file t)) :
    ((writeScaffold path text).runOn o).2.disk.find? q = some (.file t) := by
  have hperform : (Edit.scaffold path text).perform = writeScaffold path text := rfl
  rw [← hperform]
  cases hfinal : o.isFinal with
  | true => rw [(Edit.scaffold path text).runOn_of_isFinal hfinal, hfile]
  | false =>
    cases hlocate : o.locate path with
    | error error =>
      rw [(Edit.scaffold path text).runOn_of_locate_error hfinal hlocate, hfile]
    | ok p =>
      exact ((Edit.scaffold path text).accepted hfinal hlocate).outcome.keeps_file hfile
        (Or.inr rfl)

/-- Every run protects files. -/
theorem Fresh.protects (h : o.Fresh) (calls : List Call) : Protects o calls where
  text := fun hfile hlater hne ↦
    h.exists_edit (Disk.text?_eq_some_iff.mpr hfile) (Disk.text?_eq_some_iff.mpr hlater) hne
  file := by
    intro q t hfile hgone
    refine h.stale_of_gone (Disk.text?_eq_some_iff.mpr hfile) ?_
    exact Option.eq_none_iff_forall_ne_some.mpr fun u hlater ↦
      hgone u (Disk.text?_eq_some_iff.mp hlater)
  inside := h.inside_of_change
  scaffold := find?_of_writeScaffold
  refused := fun hrefused hne ↦ (Call.step (h.after calls) _).eq_of_refused hrefused hne
  finalized := fun hend e ↦ by
    rw [e.runOn_of_isFinal (h.isFinal_after.mpr hend)]
  unfinished := fun hopen ↦ by
    rw [runOn_deleteStale_of_open (eq_false_of_ne_true (mt h.isFinal_after.mp hopen))]
  outside := by
    intro hopen e houtside
    have hopen' := eq_false_of_ne_true (mt h.isFinal_after.mp hopen)
    rcases locate_outside h.hasNoLinks houtside with hlocate | hlocate
    · rw [← h.locate_after calls] at hlocate
      exact Or.inl (by rw [e.runOn_of_locate_error hopen' hlocate])
    · rw [← h.locate_after calls] at hlocate
      exact Or.inr (by rw [e.runOn_of_locate_error hopen' hlocate])

/-- **Protection.** Every run that begins with a tree of directories and files, whose managed
directories lie below the directory of the output, protects files, whatever it calls. -/
theorem protects_of_start {dirs : List Text} (htree : o.disk.IsTree)
    (hlinks : o.disk.HasNoLinks) (hstart : (start dirs).runOn o = (.ok (), o'))
    (hmanaged : ∀ dir ∈ managedDirs dirs, ∃ base, o.locate dir = .ok base)
    (calls : List Call) : Protects o' calls :=
  (fresh_of_start htree hlinks hstart hmanaged).protects calls

/-- Two files in a managed directory and one next to it. -/
def small : Output where
  root := ["out"]
  disk := ⟨[([], .dir), (["lib"], .dir), (["lib", "a"], .file "1"), (["lib", "c"], .dir),
    (["lib", "c", "d"], .file "2"), (["b"], .file "3")]⟩
  managed := ["lib"]

theorem locate_small {path : Text} (hnull : path.contains '\x00' = false)
    (hwalk : Path.walk (Path.startOf path small.root) (Text.splitOn '/' path) = small.root ++ p)
    (hne : p ≠ []) : small.locate path = .ok p :=
  locate_eq_ok_of_walk (Disk.hasNoLinks_of_all rfl) hnull hwalk hne

/-- A run whose first edit is refused and whose second one takes a file over. -/
theorem protects_small : Protects small
    [.edit (.write "../b" "4"), .edit (.write "lib/a" "5"), .finalize, .deleteStale] :=
  protects_of_start (o := { small with managed := [] })
    (by decide) (Disk.hasNoLinks_of_all rfl)
    ((runOn_start_eq_ok_iff ["/lib/"]).mpr ⟨Or.inr rfl, rfl⟩)
    (by
      intro dir hdir
      obtain rfl : dir = "lib" := List.mem_singleton.mp hdir
      exact ⟨["lib"], locate_small rfl rfl nofun⟩)
    _

end ApiSite.Output
