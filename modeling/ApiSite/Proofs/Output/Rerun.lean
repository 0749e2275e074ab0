import ApiSite.Proofs.Output.Idle

/-!
# Writing a second time

`carryOut` is what a run does with its output: it begins, makes its edits, ends writing and deletes
stale files. Made again on the tree that it has left, it does nothing (`carryOut_again`), if its
edits come to rest: no two of them rewrite one file, and a patch is only made of a file that an
earlier edit asks for (`Restful`).

When the first run has made its edits, each of them is done (`Fresh.rests_afterEdits`), by
induction on the edits. Deleting stale files keeps them done, since it deletes no file that the run
wants (`Fresh.isDone_of_sweep`). So in the second run no edit has anything to do, by induction again
(`Fresh.idle_afterEdits`), and the managed directories, which have been clean since the end of the
first run, stay as they are (`runOn_deleteStale_of_isClean`).
-/

set_option autoImplicit false

namespace ApiSite.Output

variable {o o' : Output} {d : Disk} {p q base : Path} {edits : List Edit} {e : Edit}
  {dirs : List Text} {deleted gone : List Path}

/-! ### Edits in turn -/

/-- Makes edits one after the other. -/
def performAll (edits : List Edit) : Writing Unit := do
  let _ ← edits.mapM Edit.perform

/-- What a run does with its output; says what it has deleted. -/
def carryOut (dirs : List Text) (edits : List Edit) : Writing (List Path) := do
  start dirs
  performAll edits
  finalize
  deleteStale

/-- Each of some edits succeeds in its turn. -/
def AllSucceed (o : Output) (edits : List Edit) : Prop :=
  ∀ {earlier : List Edit} {e : Edit}, earlier ++ [e] <+: edits →
    ∃ changed, (e.perform.runOn (o.afterEdits earlier)).1 = .ok changed

theorem allSucceed_nil (o : Output) : o.AllSucceed [] := fun hbegin ↦ by simp at hbegin

theorem allSucceed_concat : o.AllSucceed (edits ++ [e]) ↔
    o.AllSucceed edits ∧ ∃ changed, (e.perform.runOn (o.afterEdits edits)).1 = .ok changed := by
  constructor
  · exact fun h ↦ ⟨fun hbegin ↦ h (hbegin.trans (List.prefix_append _ _)), h List.prefix_rfl⟩
  · rintro ⟨h, hlast⟩ earlier e' hbegin
    rcases List.prefix_concat_iff.mp hbegin with heq | hbegin
    · obtain ⟨rfl, hsingle⟩ := List.append_inj' heq rfl
      rw [List.singleton_inj.mp hsingle]
      exact hlast
    · exact h hbegin

theorem performAll_append (edits more : List Edit) :
    performAll (edits ++ more) = performAll edits >>= fun _ ↦ performAll more := by
  simp [performAll, List.mapM_append]

theorem performAll_cons (e : Edit) (edits : List Edit) :
    performAll (e :: edits) = e.perform >>= fun _ ↦ performAll edits := by
  simp [performAll]

theorem runOn_performAll_concat (edits : List Edit) (e : Edit) (o : Output) :
    (performAll (edits ++ [e])).runOn o =
      ((performAll edits) >>= fun _ ↦ e.perform >>= fun _ ↦ pure ()).runOn o := by
  rw [performAll_append]
  simp [performAll]

/-- Edits made one after the other succeed if each one does. -/
theorem runOn_performAll_eq_ok_iff :
    (performAll edits).runOn o = (.ok (), o') ↔ o.AllSucceed edits ∧ o' = o.afterEdits edits := by
  induction edits using List.reverseRecOn generalizing o' with
  | nil => simp [performAll, allSucceed_nil, eq_comm]
  | append_singleton edits e ih =>
    rw [runOn_performAll_concat, allSucceed_concat, afterEdits_concat]
    constructor
    · intro hrun
      obtain ⟨_, s, hedits, hrun⟩ := ExceptT.runOn_bind_eq_ok o hrun
      obtain ⟨hall, rfl⟩ := ih.mp hedits
      obtain ⟨changed, s', hlast, hend⟩ := ExceptT.runOn_bind_eq_ok _ hrun
      rw [ExceptT.runOn_pure, Prod.mk.injEq] at hend
      rw [hlast]
      exact ⟨⟨hall, changed, rfl⟩, hend.2.symm⟩
    · rintro ⟨⟨hall, changed, hlast⟩, rfl⟩
      rw [ExceptT.runOn_bind, ih.mpr ⟨hall, rfl⟩]
      simp only
      rw [ExceptT.runOn_bind_pure, hlast]
      rfl

/-! ### What edits keep -/

/-- An edit is refused and changes nothing, or it is accepted. -/
theorem Edit.refused_or_accepted (e : Edit) (o : Output) :
    (e.perform.runOn o).2 = o ∨
      ∃ p, o.locate e.path = .ok p ∧ e.Accepted o p (e.perform.runOn o) := by
  cases hfinal : o.isFinal with
  | true => exact Or.inl (by rw [e.runOn_of_isFinal hfinal])
  | false =>
    cases hlocate : o.locate e.path with
    | error error => exact Or.inl (by rw [e.runOn_of_locate_error hfinal hlocate])
    | ok p => exact Or.inr ⟨p, rfl, e.accepted hfinal hlocate⟩

/-- The directory of the output can be one: it is a directory or not there. -/
def CanStart (o : Output) : Prop := o.disk.find? [] = none ∨ o.disk.find? [] = some .dir

/-- What edits keep, whether they succeed or not. -/
structure Keeps (o o' : Output) : Prop where
  root : o'.root = o.root
  managed : o'.managed = o.managed
  isTree : o.disk.IsTree → o'.disk.IsTree
  hasNoLinks : o.disk.HasNoLinks → o'.disk.HasNoLinks
  canStart : o.CanStart → o'.CanStart

theorem Keeps.refl (o : Output) : Keeps o o :=
  ⟨rfl, rfl, id, id, id⟩

theorem Keeps.trans {o'' : Output} (h : Keeps o o') (h' : Keeps o' o'') : Keeps o o'' :=
  ⟨h'.root.trans h.root, h'.managed.trans h.managed, h'.isTree ∘ h.isTree,
    h'.hasNoLinks ∘ h.hasNoLinks, h'.canStart ∘ h.canStart⟩

theorem Edit.Outcome.find?_nil {d' : Disk} {answer : Except Error Bool}
    (h : Edit.Outcome d p e answer d') (hp : p ≠ [])
    (hroot : d.find? [] = none ∨ d.find? [] = some .dir) :
    d'.find? [] = none ∨ d'.find? [] = some .dir := by
  cases h with
  | tooLong e made hmade =>
    rw [Disk.find?_of_makeDirs? hmade, if_pos List.nil_prefix]
    exact Or.inr rfl
  | written path text d' hwrite | created path text d' _ hwrite =>
    rw [Disk.find?_of_write? hwrite, if_neg hp.symm, if_pos List.nil_prefix]
    exact Or.inr rfl
  | inserted path line text hfind =>
    rw [Disk.find?_set, if_neg hp.symm]
    exact hroot
  | _ => exact hroot

theorem keeps_perform (e : Edit) (o : Output) : Keeps o (e.perform.runOn o).2 := by
  rcases e.refused_or_accepted o with hsame | ⟨p, hlocate, haccepted⟩
  · rw [hsame]
    exact .refl o
  · have hp := ne_nil_of_locate hlocate
    exact ⟨haccepted.root, haccepted.managed, fun htree ↦ haccepted.outcome.isTree htree hp,
      haccepted.outcome.hasNoLinks, haccepted.outcome.find?_nil hp⟩

theorem keeps_afterEdits (o : Output) (edits : List Edit) : Keeps o (o.afterEdits edits) := by
  induction edits using List.reverseRecOn with
  | nil => exact .refl o
  | append_singleton edits e ih =>
    rw [afterEdits_concat]
    exact ih.trans (keeps_perform e _)

/-! ### Managed directories of a run that succeeds -/

/-- What can be looked at can be looked at where nothing has appeared. -/
theorem look_of_nothing_appears (hlook : o.look p = .ok (o.disk.find? p))
    (hnothing : ∀ q entry, o'.disk.find? q = some entry → o.disk.find? q = some entry) :
    o'.look p = .ok (o'.disk.find? p) := by
  by_cases hname : isTooLong p = true
  · refine (look_eq p o').resolve_left fun ⟨hblocked, _⟩ ↦ ?_
    unfold look at hlook hblocked
    rw [hname, Bool.true_and] at hlook hblocked
    split at hblocked
    · next hdir =>
      rw [if_pos (Disk.isDir_iff.mpr (hnothing _ _ (Disk.isDir_iff.mp hdir)))] at hlook
      cases hlook
    · cases hblocked
  · exact Edit.look_of_not_isTooLong (eq_false_of_ne_true hname) o'

/-- Managed directories that have been cleaned lead to places, and nothing has appeared. -/
theorem exists_place_of_foldlM_cleanDir (htree : o.disk.IsTree) (hlinks : o.disk.HasNoLinks)
    (hrun : (dirs.foldlM cleanDir deleted).runOn o = (.ok gone, o')) :
    (∀ q entry, o'.disk.find? q = some entry → o.disk.find? q = some entry) ∧
      ∀ dir ∈ dirs, ∃ base, o.locate dir = .ok base ∧
        o'.look base = .ok (o'.disk.find? base) := by
  induction dirs generalizing o deleted with
  | nil =>
    rw [List.foldlM_nil, ExceptT.runOn_pure, Prod.mk.injEq] at hrun
    rw [hrun.2]
    exact ⟨fun _ _ hfind ↦ hfind, fun _ hdir ↦ absurd hdir List.not_mem_nil⟩
  | cons dir dirs ih =>
    rw [List.foldlM_cons] at hrun
    obtain ⟨first, s, hfirst, hrest⟩ := ExceptT.runOn_bind_eq_ok o hrun
    cases hlocate : o.locate dir with
    | error error =>
      rw [cleanDir, ExceptT.runOn_bind, runOn_located, hlocate] at hfirst
      cases hfirst
    | ok base =>
      have hlook : o.look base = .ok (o.disk.find? base) := by
        refine (look_eq base o).resolve_left fun hblocked ↦ ?_
        rw [runOn_cleanDir deleted hlocate, hblocked.1] at hfirst
        cases hfirst
      obtain ⟨_, _, hclean, hsweep, -⟩ | ⟨hclean, -⟩ :=
        sweep_of_cleanDir deleted htree hlocate (List.mem_singleton.mpr rfl)
      · rw [hfirst] at hclean
        obtain ⟨-, rfl⟩ := Prod.mk.inj hclean
        obtain ⟨hnothing, hplaces⟩ := ih hsweep.isTree (hsweep.hasNoLinks hlinks) hrest
        have hbefore : ∀ q entry, o'.disk.find? q = some entry → o.disk.find? q = some entry :=
          fun q entry hfind ↦ hsweep.find? (hnothing q entry hfind)
        refine ⟨hbefore, fun dir' hdir' ↦ ?_⟩
        rcases List.mem_cons.mp hdir' with rfl | hdir'
        · exact ⟨base, hlocate, look_of_nothing_appears hlook hbefore⟩
        · obtain ⟨base', hlocate', hlook'⟩ := hplaces dir' hdir'
          rw [locate_eq_of_hasNoLinks hlinks (hsweep.hasNoLinks hlinks) hsweep.root] at hlocate'
          exact ⟨base', hlocate', hlook'⟩
      · rw [hfirst] at hclean
        cases hclean

/-! ### A clean directory stays as it is -/

theorem foldl_removeIfEmpty_of_filled {paths : List Path}
    (hfilled : ∀ r ∈ paths, (d.below r).isEmpty = false) :
    paths.foldl Disk.removeIfEmpty d = d := by
  induction paths with
  | nil => rfl
  | cons r paths ih =>
    rw [List.foldl_cons, Disk.removeIfEmpty, hfilled r List.mem_cons_self,
      if_neg Bool.false_ne_true]
    exact ih fun s hs ↦ hfilled s (List.mem_cons_of_mem _ hs)

theorem IsClean.swept_eq (h : o.IsClean base) (htree : o.disk.IsTree) : o.swept base = o := by
  have hstale : o.stale base = [] := by
    refine List.eq_nil_iff_forall_not_mem.mpr fun q hq ↦ ?_
    obtain ⟨hbelow, ⟨t, hfile⟩, hunwanted⟩ := (mem_stale htree).mp hq
    rw [h.wanted hbelow hfile] at hunwanted
    cases hunwanted
  have hfilled : ∀ r ∈ o.disk.dirsBelow base, (o.disk.below r).isEmpty = false := by
    intro r hr
    obtain ⟨hbelow, hdir⟩ := htree.mem_dirsBelow.mp hr
    obtain ⟨s, entry, hs, hfind⟩ := h.filled hbelow hdir
    exact eq_false_of_ne_true fun hempty ↦ htree.isEmpty_below_iff.mp hempty s entry hfind hs
  rw [Output.swept, hstale, List.foldl_nil, Disk.removeEmptyDirs,
    foldl_removeIfEmpty_of_filled hfilled, List.map_nil, List.append_nil]

theorem IsClean.of_same (h : o.IsClean base) (hdisk : o'.disk = o.disk)
    (hwanted : ∀ q, o.isWanted q = true → o'.isWanted q = true) : o'.IsClean base where
  wanted := fun hbelow hfile ↦ hwanted _ (h.wanted hbelow (hdisk ▸ hfile))
  filled := by
    intro q hbelow hdir
    rw [hdisk] at hdir ⊢
    exact h.filled hbelow hdir

theorem runOn_foldlM_cleanDir_of_isClean (htree : o.disk.IsTree)
    (hdirs : ∀ dir ∈ dirs, ∃ base, o.locate dir = .ok base ∧
      o.look base = .ok (o.disk.find? base) ∧ o.IsClean base) :
    (dirs.foldlM cleanDir deleted).runOn o = (.ok deleted, o) := by
  induction dirs with
  | nil => rfl
  | cons dir dirs ih =>
    obtain ⟨base, hlocate, hlook, hclean⟩ := hdirs dir List.mem_cons_self
    have hdir : (cleanDir deleted dir).runOn o = (.ok deleted, o) := by
      have hstale : o.stale base = [] := by
        have heq := congrArg Output.notices (hclean.swept_eq htree)
        simpa [swept] using heq
      rw [runOn_cleanDir deleted hlocate, hlook, hclean.swept_eq htree, hstale, List.append_nil]
      simp
    rw [List.foldlM_cons, ExceptT.runOn_bind, hdir]
    exact ih fun dir' hdir' ↦ hdirs dir' (List.mem_cons_of_mem _ hdir')

/-- Deleting stale files where all managed directories are clean does nothing. -/
theorem runOn_deleteStale_of_isClean (hfinal : o.isFinal = true) (htree : o.disk.IsTree)
    (hdirs : ∀ dir ∈ o.managed, ∃ base, o.locate dir = .ok base ∧
      o.look base = .ok (o.disk.find? base) ∧ o.IsClean base) :
    deleteStale.runOn o = (.ok [], o) := by
  simp only [deleteStale, ExceptT.runOn_bind, ExceptT.runOn_get, hfinal, Bool.not_true,
    Bool.false_eq_true, if_false, runOn_foldlM_cleanDir_of_isClean htree hdirs,
    ExceptT.runOn_modify, ExceptT.runOn_pure, List.length_nil, Nat.add_zero]
  rw [← hfinal]

/-! ### Edits that come to rest -/

/-- Edits that come to rest, so that nothing is left to do when they are made again. -/
structure Restful (o : Output) (edits : List Edit) : Prop where
  /-- No two of them rewrite one file. -/
  once : edits.Pairwise fun e e' ↦ e.mayRewrite = true → e'.mayRewrite = true →
    ∀ p, o.locate e.path = .ok p → o.locate e'.path ≠ .ok p
  /-- A patch puts one line into a file that an earlier edit asks for. -/
  patch : ∀ {earlier : List Edit} {path line : Text}, earlier ++ [.patch path line] <+: edits →
    '\n' ∉ line ∧ '\r' ∉ line ∧ ∃ e ∈ earlier, e.intent?.isSome = true ∧ e.path = path
  /-- No scaffold file is asked for where there is a directory. -/
  scaffold : ∀ {path text : Text} {p : Path}, .scaffold path text ∈ edits →
    o.locate path = .ok p → o.disk.find? p ≠ some .dir

theorem Restful.of_prefix {earlier : List Edit} (h : o.Restful edits) (hbegin : earlier <+: edits) :
    o.Restful earlier :=
  ⟨h.once.sublist hbegin.sublist, fun hearlier ↦ h.patch (hearlier.trans hbegin),
    fun hmem ↦ h.scaffold (hbegin.subset hmem)⟩

/-- An edit is done at the place that its path leads to, where the edits want a file. -/
structure Rests (o : Output) (edits : List Edit) (d : Disk) (e : Edit) (p : Path) : Prop where
  locate : o.locate e.path = .ok p
  name : isTooLong p = false
  isDone : e.IsDone d p
  wants : o.Wants edits p

theorem Wants.of_prefix {earlier : List Edit} (h : o.Wants earlier q) (hbegin : earlier <+: edits) :
    o.Wants edits q := by
  obtain ⟨e, he, hintent, hlocate⟩ := h
  exact ⟨e, hbegin.subset he, hintent, hlocate⟩

/-- After edits that succeed and come to rest, each of them is done. -/
theorem Fresh.rests_afterEdits (h : o.Fresh) (hok : o.AllSucceed edits) (hrest : o.Restful edits) :
    ∀ e ∈ edits, ∃ p, Rests o edits (o.afterEdits edits).disk e p := by
  induction edits using List.reverseRecOn with
  | nil => exact fun e he ↦ absurd he List.not_mem_nil
  | append_singleton edits last ih =>
    have hbegin : edits <+: edits ++ [last] := List.prefix_append _ _
    obtain ⟨hedits, changed, hlast⟩ := allSucceed_concat.mp hok
    have hbefore := ih hedits (hrest.of_prefix hbegin)
    obtain ⟨q, hlocate, houtcome⟩ := h.outcome_of_succeeds hlast
    intro e he
    rcases List.mem_append.mp he with he | he
    · obtain ⟨p, hr⟩ := hbefore e he
      refine ⟨p, hr.locate, hr.name, hr.isDone.of_outcome houtcome ?_, hr.wants.of_prefix hbegin⟩
      rintro hrewrite hrewrite' rfl
      exact (List.pairwise_append.mp hrest.once).2.2 e he last List.mem_cons_self hrewrite hrewrite'
        p hr.locate hlocate
    · rw [List.mem_singleton] at he
      subst he
      have hopen := h.isFinal_afterEdits edits
      have hplace : (o.afterEdits edits).locate e.path = .ok q := by
        rw [← hlocate]
        exact h.locate_after _ _
      have hready : (o.afterEdits edits).Ready := h.after _
      have hall : isTooLong q = false ∧ e.IsFindable (o.afterEdits edits).disk q ∧
          o.Wants (edits ++ [e]) q := by
        by_cases hintent : e.intent?.isSome = true
        · refine ⟨Edit.not_isTooLong_of_succeeds hopen hplace hready.isTree hintent hlast, ?_,
            e, List.mem_append_right _ List.mem_cons_self, hintent, hlocate⟩
          cases e with
          | patch path line => cases hintent
          | _ => trivial
        · -- A patch is made where an earlier edit is done.
          cases e with
          | patch path line =>
            obtain ⟨hfeed, hreturn, asked, hasked, -, rfl⟩ := hrest.patch List.prefix_rfl
            obtain ⟨p, hr⟩ := hbefore asked hasked
            obtain rfl : p = q := Except.ok.inj (hr.locate.symm.trans hlocate)
            exact ⟨hr.name, ⟨hfeed, hreturn, hr.isDone.find?_ne_none⟩, hr.wants.of_prefix hbegin⟩
          | _ => exact absurd rfl hintent
      obtain ⟨hname, hfindable, hwants⟩ := hall
      refine ⟨q, hlocate, hname, ?_, hwants⟩
      rw [afterEdits_concat]
      exact Edit.isDone_of_succeeds hopen hplace hfindable hlast

/-- Where a directory has appeared, the edits have put a file below it. -/
theorem Fresh.exists_file_below (h : o.Fresh) (hok : o.AllSucceed edits)
    (hbefore : o.disk.find? p ≠ some .dir) (hdir : (o.afterEdits edits).disk.find? p = some .dir) :
    ∃ q t, Path.isBelow p q = true ∧ o.Wants edits q ∧
      (o.afterEdits edits).disk.find? q = some (.file t) := by
  induction edits using List.reverseRecOn with
  | nil => exact absurd hdir hbefore
  | append_singleton edits e ih =>
    obtain ⟨hedits, changed, hlast⟩ := allSucceed_concat.mp hok
    obtain ⟨r, hlocate, houtcome⟩ := h.outcome_of_succeeds hlast
    rcases houtcome.file_below hdir with hearlier | ⟨hintent, hbelow, t, hfile⟩
    · obtain ⟨q, t, hbelow, hwants, hfile⟩ := ih hedits hearlier
      obtain ⟨u, hfile'⟩ := houtcome.file_stays hfile
      exact ⟨q, u, hbelow, hwants.of_prefix (List.prefix_append _ _), hfile'⟩
    · refine ⟨r, t, hbelow, ⟨e, ?_, hintent, hlocate⟩, hfile⟩
      exact List.mem_append_right _ List.mem_cons_self

/-- Deleting stale files keeps edits done. -/
theorem Fresh.isDone_of_sweep (h : o.Fresh) (hok : o.AllSucceed edits) (hrest : o.Restful edits)
    {bases : List Path} (hsweep : Sweep bases (o.written edits) o' gone) (he : e ∈ edits)
    (hr : Rests o edits (o.afterEdits edits).disk e p) : e.IsDone o'.disk p := by
  have hstays : ∀ {q t}, o.Wants edits q → (o.afterEdits edits).disk.find? q = some (.file t) →
      o'.disk.find? q = some (.file t) := by
    intro q t hwants hfile
    rw [written_eq] at hsweep
    refine (hsweep.file hfile).resolve_left fun hgone ↦ ?_
    have hunwanted : (o.afterEdits edits).isWanted q = false := (hsweep.reason hgone).2.2.1
    rw [h.isWanted_afterEdits.mpr hwants] at hunwanted
    cases hunwanted
  cases e with
  | write path text => exact hstays hr.wants hr.isDone
  | patch path line =>
    obtain ⟨text, hfile, hline⟩ := hr.isDone
    exact ⟨text, hstays hr.wants hfile, hline⟩
  | scaffold path text =>
    obtain ⟨entry, hentry⟩ := Option.ne_none_iff_exists'.mp hr.isDone
    cases entry with
    | file t => exact Option.ne_none_iff_exists'.mpr ⟨_, hstays hr.wants hentry⟩
    | dir =>
      -- There is a wanted file below it, which holds the directory in its place.
      obtain ⟨q, t, hbelow, hwants, hfile⟩ :=
        h.exists_file_below hok (hrest.scaffold he hr.locate) hentry
      exact Option.ne_none_iff_exists'.mpr
        ⟨_, hsweep.isTree.above (hstays hwants hfile) hbelow⟩
    | link target => exact absurd hentry ((h.after _).hasNoLinks p target)

/-! ### The second run -/

/-- Edits that are done have nothing to do, one after the other. -/
theorem Fresh.idle_afterEdits (h : o.Fresh)
    (hdone : ∀ e ∈ edits, ∃ p, o.locate e.path = .ok p ∧ isTooLong p = false ∧
      e.IsDone o.disk p) :
    o.AllSucceed edits ∧ (o.afterEdits edits).disk = o.disk ∧
      (o.afterEdits edits).stats.written = o.stats.written ∧
      (o.afterEdits edits).stats.deleted = o.stats.deleted := by
  induction edits using List.reverseRecOn with
  | nil => exact ⟨allSucceed_nil o, rfl, rfl, rfl⟩
  | append_singleton edits e ih =>
    obtain ⟨hall, hdisk, hwritten, hdeleted⟩ :=
      ih fun e' he' ↦ hdone e' (List.mem_append_left _ he')
    obtain ⟨p, hlocate, hname, he⟩ := hdone e (List.mem_append_right _ List.mem_cons_self)
    rw [← hdisk] at he
    have hidle := he.idle (h.isFinal_afterEdits edits)
      ((h.locate_after _ _).trans hlocate) hname
    rw [afterEdits_concat]
    exact ⟨allSucceed_concat.mpr ⟨hall, false, hidle.answer⟩, hidle.disk.trans hdisk,
      hidle.written.trans hwritten, hidle.deleted.trans hdeleted⟩

/-- The output of a run that has begun. -/
def started (o : Output) (dirs : List Text) : Output :=
  { o with managed := managedDirs dirs, intents := [], isFinal := false }

/-- A run of the writer succeeds where it can begin and each of its steps succeeds. -/
theorem runOn_carryOut_eq_ok_iff :
    (carryOut dirs edits).runOn o = (.ok gone, o') ↔
      o.CanStart ∧ (o.started dirs).AllSucceed edits ∧
        deleteStale.runOn ((o.started dirs).written edits) = (.ok gone, o') := by
  have hend : ∀ s : Output, (finalize >>= fun _ ↦ deleteStale).runOn s =
      deleteStale.runOn { s with isFinal := true } := fun s ↦ by
    rw [ExceptT.runOn_bind]
    rfl
  constructor
  · intro hrun
    obtain ⟨_, s, hstart, hrun⟩ := ExceptT.runOn_bind_eq_ok o hrun
    obtain ⟨hcan, rfl⟩ := (runOn_start_eq_ok_iff dirs).mp hstart
    obtain ⟨_, s, hedits, hrun⟩ := ExceptT.runOn_bind_eq_ok _ hrun
    obtain ⟨hall, rfl⟩ := runOn_performAll_eq_ok_iff.mp hedits
    rw [hend] at hrun
    exact ⟨hcan, hall, by rw [written_eq]; exact hrun⟩
  · rintro ⟨hcan, hall, hrun⟩
    have hstart : (start dirs).runOn o = (.ok (), o.started dirs) :=
      (runOn_start_eq_ok_iff dirs).mpr ⟨hcan, rfl⟩
    rw [written_eq] at hrun
    rw [carryOut, ExceptT.runOn_bind, hstart]
    simp only
    rw [ExceptT.runOn_bind, runOn_performAll_eq_ok_iff.mpr ⟨hall, rfl⟩]
    simp only
    rw [hend, hrun]

/-- What is known of a run of the writer that has succeeded. -/
structure Ended (o : Output) (dirs : List Text) (edits : List Edit) (gone : List Path)
    (o' : Output) : Prop where
  fresh : (o.started dirs).Fresh
  allSucceed : (o.started dirs).AllSucceed edits
  sweep : Sweep (o.started dirs).managedPlaces ((o.started dirs).written edits) o' gone
  canStart : o'.CanStart
  managed : ∀ dir ∈ managedDirs dirs, ∃ base, o.locate dir = .ok base ∧
    o'.look base = .ok (o'.disk.find? base) ∧ o'.IsClean base

theorem ended_of_carryOut (htree : o.disk.IsTree) (hlinks : o.disk.HasNoLinks)
    (hrun : (carryOut dirs edits).runOn o = (.ok gone, o')) : Ended o dirs edits gone o' := by
  obtain ⟨hcan, hall, hdelete⟩ := runOn_carryOut_eq_ok_iff.mp hrun
  have hkeeps := keeps_afterEdits (o.started dirs) edits
  have hwritten := written_eq (o.started dirs) edits
  have htree' : ((o.started dirs).written edits).disk.IsTree := by
    rw [hwritten]
    exact hkeeps.isTree htree
  have hlinks' : ((o.started dirs).written edits).disk.HasNoLinks := by
    rw [hwritten]
    exact hkeeps.hasNoLinks hlinks
  have hmanaged : ((o.started dirs).written edits).managed = managedDirs dirs := by
    rw [hwritten]
    exact hkeeps.managed
  have hlocate : ∀ path, ((o.started dirs).written edits).locate path = o.locate path := by
    refine locate_eq_of_hasNoLinks hlinks hlinks' ?_
    rw [hwritten]
    exact hkeeps.root
  have hfinal : ((o.started dirs).written edits).isFinal = true := by rw [hwritten]
  -- The managed directories lead to places, since all of them have been cleaned.
  have hplaces : ∀ dir ∈ managedDirs dirs, ∃ base, o.locate dir = .ok base ∧
      o'.look base = .ok (o'.disk.find? base) := by
    rw [deleteStale, ExceptT.runOn_bind, ExceptT.runOn_get] at hdelete
    simp only [hfinal, Bool.not_true, Bool.false_eq_true, if_false, hmanaged] at hdelete
    obtain ⟨cleaned, s, hclean, hcount⟩ := ExceptT.runOn_bind_eq_ok _ hdelete
    simp only [ExceptT.runOn_bind, ExceptT.runOn_modify, ExceptT.runOn_pure, Prod.mk.injEq]
      at hcount
    obtain ⟨-, hdirs⟩ := exists_place_of_foldlM_cleanDir htree' hlinks' hclean
    intro dir hdir
    obtain ⟨base, hbase, hlook⟩ := hdirs dir hdir
    rw [← hcount.2]
    exact ⟨base, by rw [← hlocate, hbase], hlook⟩
  have hfresh : (o.started dirs).Fresh :=
    ⟨⟨htree, hlinks, fun dir hdir ↦ (hplaces dir hdir).imp fun _ hbase ↦ hbase.1⟩, rfl, rfl⟩
  have hready : ((o.started dirs).written edits).Ready := hfresh.after _
  have hsame : ((o.started dirs).written edits).managedPlaces = (o.started dirs).managedPlaces :=
    hfresh.managedPlaces_after _
  obtain ⟨gone', hsweep, ⟨hanswer, hclean⟩ | ⟨hanswer, -⟩⟩ :=
    sweep_of_deleteStale hfinal hready.isTree hready.hasNoLinks hready.exists_managedPlace
  · rw [hdelete] at hanswer hsweep hclean
    obtain rfl : gone = gone' := Except.ok.inj hanswer
    refine ⟨hfresh, hall, hsame ▸ hsweep, ?_, fun dir hdir ↦ ?_⟩
    · unfold CanStart
      cases hroot : o'.disk.find? [] with
      | none => exact Or.inl rfl
      | some entry =>
        have hbefore := hsweep.find? hroot
        rw [hwritten] at hbefore
        refine Or.inr ?_
        rcases hkeeps.canStart hcan with hnone | hdir
        · cases hnone.symm.trans hbefore
        · exact hbefore.symm.trans hdir
    · obtain ⟨base, hbase, hlook⟩ := hplaces dir hdir
      exact ⟨base, hbase, hlook, hclean dir (hmanaged ▸ hdir) base ((hlocate dir).trans hbase)⟩
  · rw [hdelete] at hanswer
    cases hanswer

/-- Run again on the tree that it has left, the writer does nothing. -/
theorem carryOut_again {o₁ : Output} (htree : o.disk.IsTree) (hlinks : o.disk.HasNoLinks)
    (hrest : o.Restful edits) (hrun : (carryOut dirs edits).runOn o = (.ok gone, o₁))
    (hroot : o'.root = o.root) (hdisk : o'.disk = o₁.disk) :
    ∃ o₂, (carryOut dirs edits).runOn o' = (.ok [], o₂) ∧ o₂.disk = o₁.disk ∧
      o₂.stats.written = o'.stats.written ∧ o₂.stats.deleted = o'.stats.deleted := by
  obtain ⟨hfresh, hall, hsweep, hcan, hmanaged⟩ := ended_of_carryOut htree hlinks hrun
  have hready : ((o.started dirs).written edits).Ready := hfresh.after _
  have hlinks' : o'.disk.HasNoLinks := hdisk ▸ hsweep.hasNoLinks hready.hasNoLinks
  have htree' : o'.disk.IsTree := hdisk ▸ hsweep.isTree
  have hlocate : ∀ path, (o'.started dirs).locate path = o.locate path :=
    locate_eq_of_hasNoLinks hlinks hlinks' hroot
  have hfresh' : (o'.started dirs).Fresh := by
    refine ⟨⟨htree', hlinks', fun dir hdir ↦ ?_⟩, rfl, rfl⟩
    obtain ⟨base, hbase, -⟩ := hmanaged dir hdir
    exact ⟨base, (hlocate dir).trans hbase⟩
  have hrest' : (o.started dirs).Restful edits := ⟨hrest.once, hrest.patch, hrest.scaffold⟩
  obtain ⟨hall', hsame, hwritten, hdeleted⟩ := hfresh'.idle_afterEdits (by
    intro e he
    obtain ⟨p, hr⟩ := hfresh.rests_afterEdits hall hrest' e he
    have hdone := hfresh.isDone_of_sweep hall hrest' hsweep he hr
    exact ⟨p, (hlocate e.path).trans hr.locate, hr.name, hdisk ▸ hdone⟩)
  have hsame' : ((o'.started dirs).written edits).disk = o₁.disk := by
    rw [written_eq]
    exact hsame.trans hdisk
  have hwanted : ∀ q, o₁.isWanted q = true →
      ((o'.started dirs).written edits).isWanted q = true := by
    intro q hq
    rw [hsweep.isWanted, written_eq] at hq
    obtain ⟨e, he, hintent, hplace⟩ := hfresh.isWanted_afterEdits.mp hq
    rw [written_eq]
    exact hfresh'.isWanted_afterEdits.mpr ⟨e, he, hintent, (hlocate e.path).trans hplace⟩
  have hdelete : deleteStale.runOn ((o'.started dirs).written edits) =
      (.ok [], (o'.started dirs).written edits) := by
    have hready' : ((o'.started dirs).written edits).Ready := hfresh'.after _
    refine runOn_deleteStale_of_isClean (by rw [written_eq]) hready'.isTree fun dir hdir ↦ ?_
    rw [written, hfresh'.managed_after] at hdir
    obtain ⟨base, hbase, hlook, hclean⟩ := hmanaged dir hdir
    refine ⟨base, (hfresh'.locate_after _ dir).trans ((hlocate dir).trans hbase), ?_,
      hclean.of_same hsame' hwanted⟩
    exact look_of_nothing_appears hlook fun _ _ hfind ↦ hsame' ▸ hfind
  refine ⟨(o'.started dirs).written edits, ?_, ?_, ?_, ?_⟩
  · refine runOn_carryOut_eq_ok_iff.mpr ⟨?_, hall', hdelete⟩
    unfold CanStart
    rw [hdisk]
    exact hcan
  · exact hsame'
  · rw [written_eq]
    exact hwritten
  · rw [written_eq]
    exact hdeleted

end ApiSite.Output
