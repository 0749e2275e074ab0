import ApiSite.Proofs.Output.Sweep

/-!
# Calls in any order

A run calls for edits, for the end of writing and for the deletion of stale files, in any order.
`Call.step` lists what one call can do, and `Ready` is what every call keeps. By induction on the
calls, what no longer holds after a run has been undone by one of its calls (`exists_call`), and the
run wants exactly the files that it has accepted (`Ready.isWanted_after`).
-/

set_option autoImplicit false

namespace ApiSite.Output

variable {o o' : Output} {p q base : Path}

/-! ### One call -/

/-- A call of a run. -/
inductive Call where
  | edit (e : Edit)
  | finalize
  | deleteStale
  deriving DecidableEq, Repr

/-- Carries out a call. -/
def Call.perform : Call → Writing Unit
  | edit e => do
    let _ ← e.perform
    return ()
  | finalize => Output.finalize
  | deleteStale => do
    let _ ← Output.deleteStale
    return ()

/-- The places of the managed directories. -/
def managedPlaces (o : Output) : List Path := o.managed.filterMap fun dir ↦ (o.locate dir).toOption

theorem mem_managedPlaces :
    base ∈ o.managedPlaces ↔ ∃ dir ∈ o.managed, o.locate dir = .ok base := by
  rw [managedPlaces, List.mem_filterMap]
  refine exists_congr fun dir ↦ and_congr_right fun _ ↦ ?_
  cases o.locate dir <;> simp [Except.toOption]

/-- What every call keeps: a tree without links whose managed directories lie inside the root. -/
structure Ready (o : Output) : Prop where
  isTree : o.disk.IsTree
  hasNoLinks : o.disk.HasNoLinks
  managed : ∀ dir ∈ o.managed, ∃ base, o.locate dir = .ok base

/-- An edit is accepted at a place: writing has not ended, and the path of the edit leads there. -/
structure Accepts (o : Output) (e : Edit) (p : Path) : Prop where
  isOpen : o.isFinal = false
  locate : o.locate e.path = .ok p

/-- What a call can do: its answer and the output after it. -/
inductive Call.Step (o : Output) : Call → Except Error Unit × Output → Prop
  /-- An edit is refused and changes nothing. -/
  | refused (e : Edit) (error : Error) (hrefused : ∀ p, ¬o.Accepts e p)
    (herror : error ≠ .blocked) : Step o (.edit e) (.error error, o)
  | edited (e : Edit) (p : Path) (haccepts : o.Accepts e p)
    (haccepted : e.Accepted o p (e.perform.runOn o)) :
    Step o (.edit e) ((e.perform.runOn o).1.map fun _ ↦ (), (e.perform.runOn o).2)
  /-- Stale files are to be deleted too early, and nothing changes. -/
  | unfinished (hopen : o.isFinal = false) : Step o .deleteStale (.error .unfinished, o)
  | finalized : Step o .finalize (.ok (), { o with isFinal := true })
  | swept (gone : List Path) (answer : Except Error Unit) (o' : Output)
    (hfinal : o.isFinal = true) (hsweep : Sweep o.managedPlaces o o' gone)
    (hanswer : ∀ error, answer = .error error → error = .blocked) :
    Step o .deleteStale (answer, o')

theorem ne_blocked_of_locate {path : Text} {error : Error} (h : o.locate path = .error error) :
    error ≠ .blocked := by
  rintro rfl
  unfold locate at h
  split at h
  · cases h
  · split at h
    · cases h
    · split at h <;> cases h

theorem Ready.exists_managedPlace (h : o.Ready) :
    ∀ dir ∈ o.managed, ∃ base ∈ o.managedPlaces, o.locate dir = .ok base := by
  intro dir hdir
  obtain ⟨base, hbase⟩ := h.managed dir hdir
  exact ⟨base, mem_managedPlaces.mpr ⟨dir, hdir, hbase⟩, hbase⟩

/-- What each call does: everything that can be said of a run follows from this. -/
theorem Call.step (h : o.Ready) (c : Call) : c.Step o (c.perform.runOn o) := by
  cases c with
  | edit e =>
    rw [perform, ExceptT.runOn_bind_pure]
    cases hfinal : o.isFinal with
    | true =>
      rw [e.runOn_of_isFinal hfinal]
      refine .refused e _ (fun p haccepts ↦ ?_) (by decide)
      rw [haccepts.isOpen] at hfinal
      cases hfinal
    | false =>
      cases hlocate : o.locate e.path with
      | error error =>
        rw [e.runOn_of_locate_error hfinal hlocate]
        refine .refused e _ (fun p haccepts ↦ ?_) (ne_blocked_of_locate hlocate)
        cases haccepts.locate.symm.trans hlocate
      | ok p => exact .edited e p ⟨hfinal, hlocate⟩ (e.accepted hfinal hlocate)
  | finalize => exact .finalized
  | deleteStale =>
    rw [perform, ExceptT.runOn_bind_pure]
    cases hfinal : o.isFinal with
    | false =>
      rw [runOn_deleteStale_of_open hfinal]
      exact .unfinished hfinal
    | true =>
      obtain ⟨gone, hsweep, ⟨hanswer, -⟩ | ⟨hanswer, -⟩⟩ :=
        sweep_of_deleteStale hfinal h.isTree h.hasNoLinks h.exists_managedPlace
      · exact .swept gone _ _ hfinal hsweep (by rw [hanswer]; simp [Except.map])
      · exact .swept gone _ _ hfinal hsweep (by rw [hanswer]; simp [Except.map])

namespace Call.Step

variable {c : Call} {result : Except Error Unit × Output}

theorem root (h : c.Step o result) : result.2.root = o.root := by
  cases h with
  | edited e p _ haccepted => exact haccepted.root
  | swept gone answer o' _ hsweep _ => exact hsweep.root
  | _ => rfl

theorem managed (h : c.Step o result) : result.2.managed = o.managed := by
  cases h with
  | edited e p _ haccepted => exact haccepted.managed
  | swept gone answer o' _ hsweep _ => exact hsweep.managed
  | _ => rfl

theorem hasNoLinks (h : c.Step o result) (hready : o.Ready) : result.2.disk.HasNoLinks := by
  cases h with
  | edited e p _ haccepted => exact haccepted.outcome.hasNoLinks hready.hasNoLinks
  | swept gone answer o' _ hsweep _ => exact hsweep.hasNoLinks hready.hasNoLinks
  | _ => exact hready.hasNoLinks

/-- A path leads to the same place before and after a call. -/
theorem locate_eq (h : c.Step o result) (hready : o.Ready) (path : Text) :
    result.2.locate path = o.locate path :=
  locate_eq_of_hasNoLinks hready.hasNoLinks (h.hasNoLinks hready) h.root path

theorem ready (h : c.Step o result) (hready : o.Ready) : result.2.Ready where
  isTree := by
    cases h with
    | edited e p haccepts haccepted =>
      exact haccepted.outcome.isTree hready.isTree (ne_nil_of_locate haccepts.locate)
    | swept gone answer o' _ hsweep _ => exact hsweep.isTree
    | _ => exact hready.isTree
  hasNoLinks := h.hasNoLinks hready
  managed := by
    intro dir hdir
    rw [h.managed] at hdir
    rw [h.locate_eq hready]
    exact hready.managed dir hdir

theorem isFinal_iff (h : c.Step o result) :
    result.2.isFinal = true ↔ o.isFinal = true ∨ c = .finalize := by
  cases h with
  | refused e error _ _ | unfinished hopen => simp
  | edited e p _ haccepted => simp [haccepted.isFinal]
  | finalized => simp
  | swept gone answer o' _ hsweep _ => simp [hsweep.isFinal]

/-- Only an accepted edit other than a patch makes the run want a file. -/
theorem isWanted_iff (h : c.Step o result) :
    result.2.isWanted q = true ↔ o.isWanted q = true ∨
      ∃ e : Edit, c = .edit e ∧ o.Accepts e q ∧ e.intent?.isSome := by
  cases h with
  | refused e error hrefused _ => simp [hrefused]
  | edited e p haccepts haccepted =>
    have hplace : o.Accepts e q ↔ q = p :=
      ⟨fun h ↦ Except.ok.inj (h.locate.symm.trans haccepts.locate), fun h ↦ h ▸ haccepts⟩
    rw [haccepted.isWanted_iff]
    simp [hplace, and_comm, or_comm]
  | unfinished hopen => simp
  | finalized => simp [isWanted]
  | swept gone answer o' _ hsweep _ => simp [hsweep.isWanted]

/-- If a call changes the text of a file, brings it about or deletes it, the call is an accepted
edit of that file which says so, or the file is stale. -/
theorem cause (h : c.Step o result) (hchange : result.2.disk.text? q ≠ o.disk.text? q) :
    (∃ e : Edit, c = .edit e ∧ o.Accepts e q ∧ (e.perform.runOn o).1 = .ok true ∧
        Edit.Outcome o.disk q e (.ok true) result.2.disk) ∨
      c = .deleteStale ∧ o.isFinal = true ∧ o.isWanted q = false ∧
        (∃ base ∈ o.managedPlaces, Path.isBelow base q = true) ∧
        result.2.disk.text? q = none := by
  cases h with
  | refused e error _ _ | unfinished hopen | finalized => exact absurd rfl hchange
  | edited e p haccepts haccepted =>
    left
    obtain ⟨rfl, hanswer⟩ : q = p ∧ (e.perform.runOn o).1 = .ok true := by
      by_contra hnot
      exact hchange (haccepted.outcome.text?_eq (not_and_or.mp hnot))
    exact ⟨e, rfl, haccepts, hanswer, hanswer ▸ haccepted.outcome⟩
  | swept gone answer o' hfinal hsweep _ =>
    right
    by_cases hgone : q ∈ gone
    · obtain ⟨-, hnone, hunwanted, hbase⟩ := hsweep.reason hgone
      refine ⟨rfl, hfinal, hunwanted, hbase, ?_⟩
      rw [Disk.text?, hnone]
    · refine absurd (Option.ext fun t ↦ ?_) hchange
      rw [Disk.text?_eq_some_iff, Disk.text?_eq_some_iff]
      exact ⟨hsweep.find?, fun hfile ↦ (hsweep.file hfile).resolve_left hgone⟩

end Call.Step

/-! ### Any calls -/

/-- The output after some calls. -/
def after (o : Output) (calls : List Call) : Output :=
  calls.foldl (fun o c ↦ (c.perform.runOn o).2) o

variable {calls : List Call} {c : Call}

@[simp] theorem after_nil (o : Output) : o.after [] = o := rfl

@[simp] theorem after_append (o : Output) (earlier later : List Call) :
    o.after (earlier ++ later) = (o.after earlier).after later := List.foldl_append

theorem after_concat (o : Output) (calls : List Call) (c : Call) :
    o.after (calls ++ [c]) = (c.perform.runOn (o.after calls)).2 := by
  rw [after_append]
  rfl

theorem Ready.after (h : o.Ready) (calls : List Call) : (o.after calls).Ready := by
  induction calls using List.reverseRecOn with
  | nil => exact h
  | append_singleton calls c ih =>
    rw [after_concat]
    exact (c.step ih).ready ih

theorem Ready.root_after (h : o.Ready) (calls : List Call) : (o.after calls).root = o.root := by
  induction calls using List.reverseRecOn with
  | nil => rfl
  | append_singleton calls c ih => rw [after_concat, (c.step (h.after calls)).root, ih]

theorem Ready.managed_after (h : o.Ready) (calls : List Call) :
    (o.after calls).managed = o.managed := by
  induction calls using List.reverseRecOn with
  | nil => rfl
  | append_singleton calls c ih => rw [after_concat, (c.step (h.after calls)).managed, ih]

/-- All through a run a path leads to the same place. -/
theorem Ready.locate_after (h : o.Ready) (calls : List Call) (path : Text) :
    (o.after calls).locate path = o.locate path :=
  locate_eq_of_hasNoLinks h.hasNoLinks (h.after calls).hasNoLinks (h.root_after calls) path

theorem Ready.managedPlaces_after (h : o.Ready) (calls : List Call) :
    (o.after calls).managedPlaces = o.managedPlaces := by
  simp only [managedPlaces, h.managed_after, h.locate_after]

theorem Ready.isFinal_after (h : o.Ready) (calls : List Call) :
    (o.after calls).isFinal = true ↔ o.isFinal = true ∨ .finalize ∈ calls := by
  induction calls using List.reverseRecOn with
  | nil => simp
  | append_singleton calls c ih =>
    rw [after_concat, (c.step (h.after calls)).isFinal_iff, ih, List.mem_append,
      List.mem_singleton, or_assoc, @eq_comm _ c]

/-- What holds before some calls and not after them has been undone by one of them. -/
theorem exists_call {P : Output → Prop} (hbefore : P o) (hafter : ¬P (o.after calls)) :
    ∃ earlier c, earlier ++ [c] <+: calls ∧ P (o.after earlier) ∧
      ¬P (c.perform.runOn (o.after earlier)).2 := by
  induction calls using List.reverseRecOn with
  | nil => exact absurd hbefore hafter
  | append_singleton calls c ih =>
    by_cases hholds : P (o.after calls)
    · rw [after_concat] at hafter
      exact ⟨calls, c, List.prefix_rfl, hholds, hafter⟩
    · obtain ⟨earlier, c', hbegin, hcall⟩ := ih hholds
      exact ⟨earlier, c', hbegin.trans (List.prefix_append _ _), hcall⟩

/-- One of some calls is an edit that is accepted at a place. -/
def HasAccepted (o : Output) (calls : List Call) (e : Edit) (p : Path) : Prop :=
  ∃ earlier, earlier ++ [.edit e] <+: calls ∧ (o.after earlier).Accepts e p

theorem hasAccepted_nil {e : Edit} : ¬o.HasAccepted [] e p := by
  rintro ⟨earlier, hbegin, -⟩
  simp at hbegin

theorem hasAccepted_concat {e : Edit} :
    o.HasAccepted (calls ++ [c]) e p ↔
      o.HasAccepted calls e p ∨ c = .edit e ∧ (o.after calls).Accepts e p := by
  unfold HasAccepted
  constructor
  · rintro ⟨earlier, hbegin, haccepts⟩
    rcases List.prefix_concat_iff.mp hbegin with heq | hbegin
    · obtain ⟨rfl, hcall⟩ := List.append_inj' heq rfl
      exact Or.inr ⟨(List.singleton_inj.mp hcall).symm, haccepts⟩
    · exact Or.inl ⟨earlier, hbegin, haccepts⟩
  · rintro (⟨earlier, hbegin, haccepts⟩ | ⟨rfl, haccepts⟩)
    · exact ⟨earlier, hbegin.trans (List.prefix_append _ _), haccepts⟩
    · exact ⟨calls, List.prefix_rfl, haccepts⟩

/-- A run wants exactly the files that it has accepted other than for a patch. -/
theorem Ready.isWanted_after (h : o.Ready) (calls : List Call) :
    (o.after calls).isWanted q = true ↔ o.isWanted q = true ∨
      ∃ e : Edit, o.HasAccepted calls e q ∧ e.intent?.isSome := by
  induction calls using List.reverseRecOn with
  | nil => simp [hasAccepted_nil]
  | append_singleton calls c ih =>
    rw [after_concat, (c.step (h.after calls)).isWanted_iff, ih]
    simp only [hasAccepted_concat, or_and_right, exists_or, or_assoc, and_assoc]

end ApiSite.Output
