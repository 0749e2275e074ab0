import ApiSite.Proofs.Output.Rerun

/-!
# Writing into an empty directory

Where the output is empty, edits whose places have names that are short enough, and of which none
lies below another one, all succeed (`Fresh.allSucceed_of_empty`): what stands on the tree are the
files at the places of earlier edits and the directories above them (`IsFilledBy`), so that nothing
is in the way of the next edit. After them stale files can be deleted, too (`exists_carryOut`).
-/

set_option autoImplicit false

namespace ApiSite.Output

variable {o : Output} {d d' : Disk} {p q : Path} {text : Text} {e : Edit} {edits : List Edit}
  {places : List Path} {dirs : List Text}

/-! ### Where nothing is in the way -/

namespace Disk

/-- What is at a path does not keep a directory from being there. -/
def HasRoom (d : Disk) (p : Path) : Prop := d.find? p = none ∨ d.find? p = some .dir

theorem HasRoom.exists_makeDir? (h : d.HasRoom p) : ∃ d', d.makeDir? p = some d' := by
  unfold makeDir?
  rcases h with hfind | hfind
  · exact ⟨_, by rw [hfind]⟩
  · exact ⟨_, by rw [hfind]⟩

theorem HasRoom.of_makeDir? (h : d.HasRoom q) (hmake : d.makeDir? p = some d') : d'.HasRoom q := by
  unfold HasRoom
  rw [find?_of_makeDir? hmake]
  split
  · exact Or.inr rfl
  · exact h

/-- Directories can be made on a way where each of them has room. -/
theorem exists_makeDirsFrom? {start rest : Path}
    (hroom : ∀ q, q <+: start ++ rest → d.HasRoom q) :
    ∃ d', d.makeDirsFrom? start rest = some d' := by
  induction rest generalizing start d with
  | nil => exact (hroom start (List.prefix_append _ _)).exists_makeDir?
  | cons name rest ih =>
    obtain ⟨made, hmade⟩ := (hroom start (List.prefix_append _ _)).exists_makeDir?
    rw [makeDirsFrom?, hmade, Option.bind_some]
    refine ih fun q hq ↦ (hroom q ?_).of_makeDir? hmade
    simpa using hq

/-- A file can be written where there is no directory and all above have room. -/
theorem exists_write? (text : Text) (hroom : ∀ q, q <+: p.dropLast → d.HasRoom q)
    (hp : p ≠ []) (hdir : d.find? p ≠ some .dir) : ∃ d', d.write? p text = some d' := by
  obtain ⟨made, hmade⟩ : ∃ made, d.makeDirs? p.dropLast = some made :=
    exists_makeDirsFrom? (by simpa using hroom)
  have hmadeDir : ¬made.isDir p = true := by
    have hnot : ¬p <+: p.dropLast := fun hprefix ↦
      Path.not_isBelow_self p ((Path.isBelow_iff_prefix_dropLast hp).mpr hprefix)
    rw [isDir_iff, find?_of_makeDirs? hmade, if_neg hnot]
    exact hdir
  exact ⟨_, by rw [write?, hmade, Option.bind_some, if_neg hmadeDir]⟩

end Disk

/-- Nothing is in the way of a file: above it there is room, and at its place there is nothing or a
file. -/
structure IsClear (d : Disk) (p : Path) : Prop where
  above : ∀ q, Path.isBelow q p = true → d.HasRoom q
  place : d.find? p = none ∨ ∃ t, d.find? p = some (.file t)

theorem IsClear.find?_ne_dir (h : IsClear d p) : d.find? p ≠ some .dir := by
  rcases h.place with hfind | ⟨t, hfind⟩ <;> simp [hfind]

theorem IsClear.exists_put (h : IsClear o.disk p) (hp : p ≠ []) (hname : isTooLong p = false)
    (text : Text) :
    ∃ changed, ((put p text >>= fun _ ↦ pure true : Writing Bool).runOn o).1 = .ok changed := by
  obtain ⟨disk, hwrite⟩ := Disk.exists_write? text
    (fun q hq ↦ h.above q ((Path.isBelow_iff_prefix_dropLast hp).mpr hq)) hp h.find?_ne_dir
  refine ⟨true, ?_⟩
  rw [put, hname, if_neg Bool.false_ne_true]
  simp only [ExceptT.runOn_bind, ExceptT.runOn_get, hwrite, ExceptT.runOn_modify,
    ExceptT.runOn_pure]

theorem IsClear.exists_update (h : IsClear o.disk p) (hp : p ≠ []) (hname : isTooLong p = false)
    (text : Text) : ∃ changed, ((update p text).runOn o).1 = .ok changed := by
  rw [update, ExceptT.runOn_bind, runOn_looked, Edit.look_of_not_isTooLong hname]
  simp only
  split
  · exact ⟨false, rfl⟩
  · exact h.exists_put hp hname text

theorem IsClear.exists_create (h : IsClear o.disk p) (hp : p ≠ []) (hname : isTooLong p = false)
    (text : Text) : ∃ changed, ((create p text).runOn o).1 = .ok changed := by
  rw [create, ExceptT.runOn_bind, runOn_looked, Edit.look_of_not_isTooLong hname]
  simp only
  split
  · exact ⟨false, rfl⟩
  · exact h.exists_put hp hname text

theorem IsClear.exists_restoreImport (h : IsClear o.disk p) (hname : isTooLong p = false)
    (line : Text) : ∃ changed, ((restoreImport p line).runOn o).1 = .ok changed := by
  rw [restoreImport, ExceptT.runOn_bind, runOn_looked, Edit.look_of_not_isTooLong hname]
  rcases h.place with hfind | ⟨t, hfind⟩
  · rw [hfind]
    exact ⟨false, rfl⟩
  · rw [hfind]
    simp only
    split
    · exact ⟨false, rfl⟩
    · exact ⟨true, rfl⟩

/-- An edit succeeds where nothing is in its way. -/
theorem IsClear.exists_perform (h : IsClear o.disk p) (hopen : o.isFinal = false)
    (hlocate : o.locate e.path = .ok p) (hname : isTooLong p = false) :
    ∃ changed, (e.perform.runOn o).1 = .ok changed := by
  have hp := ne_nil_of_locate hlocate
  rw [e.runOn_of_locate hopen hlocate]
  cases e with
  | write path text =>
    rw [Edit.runOn_performAt_write]
    exact IsClear.exists_update (o := o.wanting p ⟨text, false⟩) h hp hname text
  | scaffold path text =>
    rw [Edit.runOn_performAt_scaffold]
    exact IsClear.exists_create (o := o.wanting p ⟨text, true⟩) h hp hname text
  | patch path line => exact h.exists_restoreImport hname line

/-! ### What edits fill a tree with -/

/-- A tree that holds nothing but files at some places and directories above them. -/
def IsFilledBy (d : Disk) (places : List Path) : Prop :=
  ∀ q entry, d.find? q = some entry →
    (q ∈ places ∧ ∃ t, entry = .file t) ∨ (entry = .dir ∧ ∃ p ∈ places, Path.isBelow q p = true)

/-- None of some places is below another one. -/
def AreApart (places : List Path) : Prop :=
  ∀ p ∈ places, ∀ q ∈ places, Path.isBelow p q = false

/-- A place is clear where a tree is filled by places apart from it. -/
theorem IsFilledBy.isClear (h : IsFilledBy d places) (hapart : AreApart places)
    (hp : p ∈ places) : IsClear d p := by
  constructor
  · intro q hq
    cases hfind : d.find? q with
    | none => exact Or.inl hfind
    | some entry =>
      rcases h q entry hfind with ⟨hmem, -⟩ | ⟨rfl, -⟩
      · exact absurd hq (by simp [hapart q hmem p hp])
      · exact Or.inr hfind
  · cases hfind : d.find? p with
    | none => exact Or.inl rfl
    | some entry =>
      rcases h p entry hfind with ⟨-, t, rfl⟩ | ⟨-, q, hq, hbelow⟩
      · exact Or.inr ⟨t, rfl⟩
      · exact absurd hbelow (by simp [hapart p hp q hq])

/-- An edit at one of the places that succeeds fills a tree as before. -/
theorem IsFilledBy.of_outcome {changed : Bool} (h : IsFilledBy d places) (hp : p ∈ places)
    (hne : p ≠ []) (houtcome : Edit.Outcome d p e (.ok changed) d') : IsFilledBy d' places := by
  have hwritten : ∀ text, d.write? p text = some d' → IsFilledBy d' places := by
    intro text hwrite q entry hfind
    rw [Disk.find?_of_write? hwrite] at hfind
    split at hfind
    · next heq => exact Or.inl ⟨heq ▸ hp, text, (Option.some.inj hfind).symm⟩
    · split at hfind
      · next hprefix =>
        exact Or.inr ⟨(Option.some.inj hfind).symm, p, hp,
          (Path.isBelow_iff_prefix_dropLast hne).mpr hprefix⟩
      · exact h q entry hfind
  cases houtcome with
  | written path text _ hwrite => exact hwritten text hwrite
  | created path text _ _ hwrite => exact hwritten text hwrite
  | inserted path line text _ =>
    intro q entry hfind
    rw [Disk.find?_set] at hfind
    split at hfind
    · next heq => exact Or.inl ⟨heq ▸ hp, _, (Option.some.inj hfind).symm⟩
    · exact h q entry hfind
  | _ => exact h

/-! ### A first run -/

/-- What edits need to be made in an empty output: places with names that are short enough, of
which none is below another one. -/
structure Fits (o : Output) (edits : List Edit) (places : List Path) : Prop where
  place : ∀ e ∈ edits, ∃ p ∈ places, o.locate e.path = .ok p ∧ isTooLong p = false
  apart : AreApart places

/-- In an empty output all edits succeed that fit into it. -/
theorem Fresh.allSucceed_of_empty (h : o.Fresh) (hempty : o.disk = {})
    (hfits : o.Fits edits places) :
    o.AllSucceed edits ∧ IsFilledBy (o.afterEdits edits).disk places := by
  induction edits using List.reverseRecOn with
  | nil =>
    refine ⟨allSucceed_nil o, fun q entry hfind ↦ ?_⟩
    rw [afterEdits_nil, hempty] at hfind
    cases hfind
  | append_singleton edits e ih =>
    obtain ⟨hall, hfilled⟩ :=
      ih ⟨fun e' he' ↦ hfits.place e' (List.mem_append_left _ he'), hfits.apart⟩
    obtain ⟨p, hp, hlocate, hname⟩ := hfits.place e (List.mem_append_right _ List.mem_cons_self)
    obtain ⟨changed, hlast⟩ := (hfilled.isClear hfits.apart hp).exists_perform
      (h.isFinal_afterEdits edits) ((h.locate_after _ _).trans hlocate) hname
    refine ⟨allSucceed_concat.mpr ⟨hall, changed, hlast⟩, ?_⟩
    obtain ⟨q, hlocate', houtcome⟩ := h.outcome_of_succeeds hlast
    obtain rfl : p = q := Except.ok.inj (hlocate.symm.trans hlocate')
    exact hfilled.of_outcome hp (ne_nil_of_locate hlocate) houtcome

/-- A run of the writer succeeds in an empty output where its edits fit, and where its managed
directories lead to places whose names are short enough. -/
theorem exists_carryOut (hempty : o.disk = {}) (hfits : o.Fits edits places)
    (hdirs : ∀ dir ∈ managedDirs dirs, ∃ base, o.locate dir = .ok base ∧ isTooLong base = false) :
    ∃ gone o', (carryOut dirs edits).runOn o = (.ok gone, o') := by
  have htree : o.disk.IsTree := by
    rw [hempty]
    decide
  have hlinks : o.disk.HasNoLinks := by
    rw [hempty]
    exact Disk.hasNoLinks_of_all rfl
  have hfresh : (o.started dirs).Fresh :=
    ⟨⟨htree, hlinks, fun dir hdir ↦ (hdirs dir hdir).imp fun _ hbase ↦ hbase.1⟩, rfl, rfl⟩
  obtain ⟨hall, -⟩ := hfresh.allSucceed_of_empty hempty ⟨hfits.place, hfits.apart⟩
  have hready : ((o.started dirs).written edits).Ready := hfresh.after _
  obtain ⟨gone, -, ⟨hanswer, -⟩ | ⟨-, base, hbase, hreach⟩⟩ :=
    sweep_of_deleteStale (by rw [written_eq]) hready.isTree hready.hasNoLinks
      hready.exists_managedPlace
  · exact ⟨gone, _, runOn_carryOut_eq_ok_iff.mpr
      ⟨Or.inl (by rw [hempty]; rfl), hall, Prod.ext hanswer rfl⟩⟩
  · obtain ⟨dir, hdir, hlocate⟩ := mem_managedPlaces.mp (hfresh.managedPlaces_after _ ▸ hbase)
    obtain ⟨base', hlocate', hname⟩ := hdirs dir hdir
    obtain rfl : base' = base := Except.ok.inj (hlocate'.symm.trans hlocate)
    cases hname.symm.trans hreach.long

end ApiSite.Output
