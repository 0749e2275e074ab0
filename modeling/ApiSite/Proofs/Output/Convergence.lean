import ApiSite.Proofs.Output.Protection

/-!
# What a run leaves behind

A run that makes edits, ends writing and deletes stale files leaves the same files in its managed
directories whatever was there before: `Converges` says which. A file that is as it should be is not
written again, but that makes no difference, since after a write a file holds the text that was to
be written either way (`Edit.Outcome.file_of_write`).

`Successful` is what is asked of the edits. By induction on them, every file that the run wants is
there when writing ends (`Successful.exists_file`), with the text that was written last
(`Successful.find?_of_last_write`); deleting stale files then leaves the wanted files of the managed
directories and nothing else. The main result is `converges_of_start`.

Of the managed directories it asks that none is out of reach. Such a directory cannot be looked at,
and the deletion fails before it comes to the next one (`not_converges_of_long_name`).
-/

set_option autoImplicit false

namespace ApiSite.Output

variable {o o' : Output} {p q base : Path} {edits : List Edit} {e : Edit}

/-! ### Edits one after the other -/

/-- The output after some edits. -/
def afterEdits (o : Output) (edits : List Edit) : Output := o.after (edits.map .edit)

@[simp] theorem afterEdits_nil (o : Output) : o.afterEdits [] = o := rfl

theorem afterEdits_concat (o : Output) (edits : List Edit) (e : Edit) :
    o.afterEdits (edits ++ [e]) = (e.perform.runOn (o.afterEdits edits)).2 := by
  rw [afterEdits, List.map_append, List.map_singleton, after_concat, ← afterEdits]
  rw [Call.perform, ExceptT.runOn_bind]
  rcases e.perform.runOn (o.afterEdits edits) with ⟨answer, s⟩
  cases answer <;> rfl

/-- Edits that all succeed; none asks for a scaffold file where there is a directory. -/
structure Successful (o : Output) (edits : List Edit) : Prop where
  succeeds : ∀ {earlier : List Edit} {e : Edit}, earlier ++ [e] <+: edits →
    ∃ changed, (e.perform.runOn (o.afterEdits earlier)).1 = .ok changed
  scaffold : ∀ {earlier : List Edit} {path text : Text} {p : Path},
    earlier ++ [.scaffold path text] <+: edits → o.locate path = .ok p →
    (o.afterEdits earlier).disk.find? p ≠ some .dir

/-- The edits want a file. -/
def Wants (o : Output) (edits : List Edit) (q : Path) : Prop :=
  ∃ e ∈ edits, e.intent?.isSome ∧ o.locate e.path = .ok q

theorem Successful.of_prefix {earlier : List Edit} (h : o.Successful edits)
    (hbegin : earlier <+: edits) : o.Successful earlier :=
  ⟨fun hearlier ↦ h.succeeds (hearlier.trans hbegin),
    fun hearlier ↦ h.scaffold (hearlier.trans hbegin)⟩

/-- One more edit that succeeds. -/
theorem Successful.concat (h : o.Successful edits)
    (hok : ∃ changed, (e.perform.runOn (o.afterEdits edits)).1 = .ok changed)
    (hscaffold : ∀ path text p, e = .scaffold path text → o.locate path = .ok p →
      (o.afterEdits edits).disk.find? p ≠ some .dir) :
    o.Successful (edits ++ [e]) where
  succeeds := by
    intro earlier e' hbegin
    rcases List.prefix_concat_iff.mp hbegin with heq | hbegin
    · obtain ⟨rfl, hlast⟩ := List.append_inj' heq rfl
      rw [List.singleton_inj.mp hlast]
      exact hok
    · exact h.succeeds hbegin
  scaffold := by
    intro earlier path text p hbegin hlocate
    rcases List.prefix_concat_iff.mp hbegin with heq | hbegin
    · obtain ⟨rfl, hlast⟩ := List.append_inj' heq rfl
      exact hscaffold path text p (List.singleton_inj.mp hlast).symm hlocate
    · exact h.scaffold hbegin hlocate

theorem Fresh.isFinal_afterEdits (h : o.Fresh) (edits : List Edit) :
    (o.afterEdits edits).isFinal = false := by
  refine eq_false_of_ne_true fun hfinal ↦ ?_
  have hmem := h.isFinal_after.mp hfinal
  simp at hmem

/-- What an edit that succeeds does. -/
theorem Fresh.outcome_of_succeeds {changed : Bool} (h : o.Fresh)
    (hok : (e.perform.runOn (o.afterEdits edits)).1 = .ok changed) :
    ∃ p, o.locate e.path = .ok p ∧
      Edit.Outcome (o.afterEdits edits).disk p e (.ok changed)
        (o.afterEdits (edits ++ [e])).disk := by
  have hopen := h.isFinal_afterEdits edits
  cases hlocate : (o.afterEdits edits).locate e.path with
  | error error =>
    rw [e.runOn_of_locate_error hopen hlocate] at hok
    cases hok
  | ok p =>
    refine ⟨p, by rw [← hlocate]; exact (h.locate_after _ _).symm, ?_⟩
    rw [afterEdits_concat, ← hok]
    exact (e.accepted hopen hlocate).outcome

theorem Fresh.hasAccepted_edits (h : o.Fresh) (edits : List Edit) :
    o.HasAccepted (edits.map .edit) e q ↔ e ∈ edits ∧ o.locate e.path = .ok q := by
  induction edits using List.reverseRecOn with
  | nil => simp [hasAccepted_nil]
  | append_singleton edits e' ih =>
    have haccepts : (o.after (edits.map .edit)).Accepts e q ↔ o.locate e.path = .ok q := by
      rw [← h.locate_after (edits.map .edit)]
      exact ⟨fun ha ↦ ha.locate, fun hl ↦ ⟨h.isFinal_afterEdits edits, hl⟩⟩
    rw [List.map_append, List.map_singleton, hasAccepted_concat, ih, haccepts, List.mem_append,
      List.mem_singleton, or_and_right, Call.edit.injEq, @eq_comm _ e']

theorem Fresh.isWanted_afterEdits (h : o.Fresh) :
    (o.afterEdits edits).isWanted q = true ↔ o.Wants edits q := by
  rw [afterEdits, h.isWanted_after, Wants]
  refine exists_congr fun e ↦ ?_
  rw [h.hasAccepted_edits, and_assoc, and_comm (b := e.intent?.isSome = true)]

/-! ### The files that are wanted -/

/-- The output when the edits have been made and writing has ended. -/
def written (o : Output) (edits : List Edit) : Output :=
  o.after (edits.map .edit ++ [.finalize])

theorem written_eq (o : Output) (edits : List Edit) :
    o.written edits = { o.afterEdits edits with isFinal := true } := by
  rw [written, after_concat]
  rfl

end ApiSite.Output
