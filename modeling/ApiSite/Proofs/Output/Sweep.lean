import ApiSite.Proofs.Output.Edit

/-!
# Deleting what the run does not want

Sweeping a directory deletes the files below it that the run does not want and then the directories
that are empty. `Sweep` says what sweeping any number of directories may do: nothing appears, a file
goes only if it is unwanted and below one of them, and the list of deleted paths names exactly the
files that have gone. A directory is clean (`IsClean`) if only wanted files and no empty directories
are below it; sweeping it makes it so (`isClean_swept`), and sweeping another one later leaves it so
(`IsClean.swept`), however the two overlap.
-/

set_option autoImplicit false

namespace ApiSite.Output

variable {o o' : Output} {p q base : Path}

/-! ### Sweeping one directory -/

/-- The files below a directory that the run does not want. -/
def stale (o : Output) (base : Path) : List Path :=
  (o.disk.filesBelow base).filter fun p ↦ !o.isWanted p

/-- The output without the unwanted files below a directory and without its empty directories. -/
def swept (o : Output) (base : Path) : Output :=
  { o with
    disk := ((o.stale base).foldl Disk.erase o.disk).removeEmptyDirs base
    notices := o.notices ++ (o.stale base).map Notice.deleted }

theorem runOn_foldlM_deleteUnwanted (paths deleted : List Path) (o : Output) :
    (paths.foldlM deleteUnwanted deleted).runOn o =
      (.ok (deleted ++ paths.filter fun p ↦ !o.isWanted p), { o with
        disk := (paths.filter fun p ↦ !o.isWanted p).foldl Disk.erase o.disk
        notices := o.notices ++ (paths.filter fun p ↦ !o.isWanted p).map Notice.deleted }) := by
  induction paths generalizing deleted o with
  | nil => simp
  | cons p paths ih =>
    rw [List.foldlM_cons, ExceptT.runOn_bind]
    simp only [deleteUnwanted, ExceptT.runOn_bind, ExceptT.runOn_get]
    by_cases hwanted : o.isWanted p = true
    · simp [hwanted, ih]
    · simp only [hwanted, Bool.false_eq_true, if_false, ExceptT.runOn_bind, ExceptT.runOn_modify,
        ExceptT.runOn_pure, ih]
      have hsame : ∀ r, isWanted (say (.deleted p) { o with disk := o.disk.erase p }) r =
          o.isWanted r := fun _ ↦ rfl
      simp only [hsame]
      simp [hwanted, say]

/-- Cleaning a managed directory sweeps it if it is there. It fails only where it cannot be looked
at. -/
theorem runOn_cleanDir {dir : Text} (deleted : List Path) (hlocate : o.locate dir = .ok base) :
    (cleanDir deleted dir).runOn o =
      match o.look base with
      | .error e => (.error e, o)
      | .ok found =>
        if found = some .dir then (.ok (deleted ++ o.stale base), o.swept base)
        else (.ok deleted, o) := by
  rw [cleanDir, ExceptT.runOn_bind, runOn_located, hlocate]
  simp only [ExceptT.runOn_bind, runOn_looked]
  cases o.look base with
  | error e => rfl
  | ok found =>
    by_cases hdir : found = some .dir
    · simp only [hdir, bne_self_eq_false, Bool.false_eq_true, if_false, if_true,
        ExceptT.runOn_bind, ExceptT.runOn_get, runOn_foldlM_deleteUnwanted, ExceptT.runOn_modify]
      rfl
    · simp [hdir]

theorem find?_foldl_erase (d : Disk) (paths : List Path) (q : Path) :
    (paths.foldl Disk.erase d).find? q = if q ∈ paths then none else d.find? q := by
  induction paths generalizing d with
  | nil => simp
  | cons p paths ih =>
    rw [List.foldl_cons, ih, Disk.find?_erase]
    by_cases hq : q = p <;> by_cases hmem : q ∈ paths <;> simp [hq, hmem]

/-- Removing files keeps a tree: there is nothing below a file. -/
theorem isTree_foldl_erase {d : Disk} (htree : d.IsTree) {paths : List Path}
    (hfiles : ∀ p ∈ paths, ∃ t, d.find? p = some (.file t)) :
    (paths.foldl Disk.erase d).IsTree := by
  refine ⟨?_, fun {r s f} hfind hs ↦ ?_⟩
  · have hsublist : ((paths.foldl Disk.erase d).entries).Sublist d.entries := by
      clear hfiles htree
      induction paths generalizing d with
      | nil => exact List.Sublist.refl _
      | cons p paths ih => exact (ih (d := d.erase p)).trans List.filter_sublist
    exact htree.nodup.sublist (hsublist.map Prod.fst)
  · rw [find?_foldl_erase] at hfind ⊢
    split at hfind
    · cases hfind
    · have hdir := htree.above hfind hs
      rw [if_neg, hdir]
      intro hmem
      obtain ⟨t, hfile⟩ := hfiles s hmem
      rw [hfile] at hdir
      cases hdir

theorem mem_stale (htree : o.disk.IsTree) :
    p ∈ o.stale base ↔ Path.isBelow base p = true ∧ (∃ t, o.disk.find? p = some (.file t)) ∧
      o.isWanted p = false := by
  rw [stale, List.mem_filter, htree.mem_filesBelow, and_assoc]
  simp

theorem isTree_erased (htree : o.disk.IsTree) (base : Path) :
    ((o.stale base).foldl Disk.erase o.disk).IsTree :=
  isTree_foldl_erase htree fun _ hp ↦ ((mem_stale htree).mp hp).2.1

/-- What a sweep takes away: a file that is not wanted, or a directory, below what is swept. -/
theorem find?_swept (htree : o.disk.IsTree) (base q : Path) :
    (o.swept base).disk.find? q = o.disk.find? q ∧ q ∉ o.stale base ∨
      (o.swept base).disk.find? q = none ∧ Path.isBelow base q = true ∧
        (q ∈ o.stale base ∨ o.disk.find? q = some .dir) := by
  have herased := find?_foldl_erase o.disk (o.stale base) q
  rcases (isTree_erased htree base).find?_removeEmptyDirs base q with hsame | ⟨hnone, hdir, hbelow⟩
  · by_cases hstale : q ∈ o.stale base
    · rw [if_pos hstale] at herased
      exact Or.inr ⟨hsame.trans herased, ((mem_stale htree).mp hstale).1, Or.inl hstale⟩
    · rw [if_neg hstale] at herased
      exact Or.inl ⟨hsame.trans herased, hstale⟩
  · rw [hdir] at herased
    split at herased
    · cases herased
    · exact Or.inr ⟨hnone, hbelow, Or.inr herased.symm⟩

/-! ### Sweeping directories in turn -/

/-- What sweeping some directories may do to an output, with the paths that are said to be
deleted. -/
structure Sweep (bases : List Path) (o o' : Output) (deleted : List Path) : Prop where
  root : o'.root = o.root
  managed : o'.managed = o.managed
  intents : o'.intents = o.intents
  isFinal : o'.isFinal = o.isFinal
  isTree : o'.disk.IsTree
  /-- Nothing appears, and nothing changes. -/
  find? : ∀ {q : Path} {e : Entry}, o'.disk.find? q = some e → o.disk.find? q = some e
  /-- A file is deleted or stays. -/
  file : ∀ {q : Path} {t : Text}, o.disk.find? q = some (.file t) →
    q ∈ deleted ∨ o'.disk.find? q = some (.file t)
  /-- What is deleted was a file below one of the directories that the run does not want. -/
  reason : ∀ {q : Path}, q ∈ deleted → (∃ t, o.disk.find? q = some (.file t)) ∧
    o'.disk.find? q = none ∧ o.isWanted q = false ∧ ∃ base ∈ bases, Path.isBelow base q = true
  nodup : deleted.Nodup

theorem Sweep.refl (bases : List Path) (htree : o.disk.IsTree) : Sweep bases o o [] where
  root := rfl
  managed := rfl
  intents := rfl
  isFinal := rfl
  isTree := htree
  find? := fun h ↦ h
  file := fun h ↦ Or.inr h
  reason := fun h ↦ absurd h List.not_mem_nil
  nodup := List.nodup_nil

theorem Sweep.isWanted {bases deleted : List Path} (h : Sweep bases o o' deleted) (q : Path) :
    o'.isWanted q = o.isWanted q := by
  rw [Output.isWanted, h.intents, Output.isWanted]

theorem Sweep.trans {bases first second : List Path} {o'' : Output}
    (hfirst : Sweep bases o o' first) (hsecond : Sweep bases o' o'' second) :
    Sweep bases o o'' (first ++ second) where
  root := hsecond.root.trans hfirst.root
  managed := hsecond.managed.trans hfirst.managed
  intents := hsecond.intents.trans hfirst.intents
  isFinal := hsecond.isFinal.trans hfirst.isFinal
  isTree := hsecond.isTree
  find? := fun h ↦ hfirst.find? (hsecond.find? h)
  file := by
    intro q t hfile
    rcases hfirst.file hfile with hmem | hstay
    · exact Or.inl (List.mem_append_left _ hmem)
    · rcases hsecond.file hstay with hmem | hstay
      · exact Or.inl (List.mem_append_right _ hmem)
      · exact Or.inr hstay
  reason := by
    intro q hq
    rcases List.mem_append.mp hq with hq | hq
    · obtain ⟨hfile, hgone, hunwanted, hbase⟩ := hfirst.reason hq
      refine ⟨hfile, ?_, hunwanted, hbase⟩
      cases hfind : o''.disk.find? q with
      | none => rfl
      | some e =>
        rw [hsecond.find? hfind] at hgone
        cases hgone
    · obtain ⟨⟨t, hfile⟩, hgone, hunwanted, hbase⟩ := hsecond.reason hq
      exact ⟨⟨t, hfirst.find? hfile⟩, hgone, by rw [← hfirst.isWanted, hunwanted], hbase⟩
  nodup := by
    refine List.nodup_append.mpr ⟨hfirst.nodup, hsecond.nodup, ?_⟩
    rintro p hp q hq rfl
    obtain ⟨t, hfile⟩ := (hsecond.reason hq).1
    rw [(hfirst.reason hp).2.1] at hfile
    cases hfile

/-- One directory swept. -/
theorem Sweep.of_swept {bases : List Path} (htree : o.disk.IsTree) (hbase : base ∈ bases) :
    Sweep bases o (o.swept base) (o.stale base) where
  root := rfl
  managed := rfl
  intents := rfl
  isFinal := rfl
  isTree := (isTree_erased htree base).removeEmptyDirs
  find? := by
    intro q e hfind
    rcases find?_swept htree base q with ⟨hsame, _⟩ | ⟨hnone, _⟩
    · rw [← hsame, hfind]
    · rw [hnone] at hfind
      cases hfind
  file := by
    intro q t hfile
    rcases find?_swept htree base q with ⟨hsame, _⟩ | ⟨_, _, hstale | hdir⟩
    · exact Or.inr (hsame.trans hfile)
    · exact Or.inl hstale
    · rw [hdir] at hfile
      cases hfile
  reason := by
    intro q hq
    obtain ⟨hbelow, hfile, hunwanted⟩ := (mem_stale htree).mp hq
    refine ⟨hfile, ?_, hunwanted, base, hbase, hbelow⟩
    rcases find?_swept htree base q with ⟨_, hkept⟩ | ⟨hnone, _⟩
    · exact absurd hq hkept
    · exact hnone
  nodup := htree.nodup_filesBelow.sublist List.filter_sublist

/-! ### Clean directories -/

/-- A directory is clean if only wanted files and no empty directories are below it. -/
structure IsClean (o : Output) (base : Path) : Prop where
  wanted : ∀ {q : Path} {t : Text}, Path.isBelow base q = true →
    o.disk.find? q = some (.file t) → o.isWanted q = true
  filled : ∀ {q : Path}, Path.isBelow base q = true → o.disk.find? q = some .dir →
    ∃ r e, Path.isBelow q r = true ∧ o.disk.find? r = some e

/-- A directory that has been swept is clean. -/
theorem isClean_swept (htree : o.disk.IsTree) (base : Path) : (o.swept base).IsClean base where
  wanted := by
    intro q t hbelow hfile
    rcases find?_swept htree base q with ⟨hsame, hkept⟩ | ⟨hnone, _⟩
    · rw [hsame] at hfile
      by_contra hunwanted
      exact hkept ((mem_stale htree).mpr ⟨hbelow, ⟨t, hfile⟩, eq_false_of_ne_true hunwanted⟩)
    · rw [hnone] at hfile
      cases hfile
  filled := fun hbelow hdir ↦ (isTree_erased htree base).exists_below_of_removeEmptyDirs hbelow hdir

/-- In a clean directory a sweep of any other one takes nothing away. -/
theorem IsClean.find?_swept {kept : Path} (hclean : o.IsClean kept) (htree : o.disk.IsTree)
    (hq : Path.isBelow kept q = true) : (o.swept base).disk.find? q = o.disk.find? q := by
  have hkept : ∀ r, Path.isBelow kept r = true →
      ((o.stale base).foldl Disk.erase o.disk).find? r = o.disk.find? r := by
    intro r hr
    rw [find?_foldl_erase, if_neg]
    intro hstale
    obtain ⟨_, ⟨t, hfile⟩, hunwanted⟩ := (mem_stale htree).mp hstale
    rw [hclean.wanted hr hfile] at hunwanted
    cases hunwanted
  rw [← hkept q hq]
  refine (isTree_erased htree base).find?_removeEmptyDirs_of_filled (fun r hr hdir ↦ ?_) hq
  rw [hkept r hr] at hdir
  obtain ⟨s, e, hs, hfind⟩ := hclean.filled hr hdir
  exact ⟨s, e, hs, by rw [hkept s (Path.isBelow_trans hs hr), hfind]⟩

theorem IsClean.swept {kept : Path} (hclean : o.IsClean kept) (htree : o.disk.IsTree)
    (base : Path) : (o.swept base).IsClean kept where
  wanted := by
    intro q t hq hfile
    rw [hclean.find?_swept htree hq] at hfile
    exact hclean.wanted hq hfile
  filled := by
    intro q hq hdir
    rw [hclean.find?_swept htree hq] at hdir
    obtain ⟨r, e, hr, hfind⟩ := hclean.filled hq hdir
    exact ⟨r, e, hr, by rw [hclean.find?_swept htree (Path.isBelow_trans hr hq), hfind]⟩

/-- There is nothing below what is no directory. -/
theorem isClean_of_ne_dir (htree : o.disk.IsTree) (hdir : o.disk.find? base ≠ some .dir) :
    o.IsClean base where
  wanted := fun hbelow hfile ↦ absurd (htree.above hfile hbelow) hdir
  filled := fun hbelow hfind ↦ absurd (htree.above hfind hbelow) hdir

/-! ### Sweeping the managed directories -/

theorem Sweep.hasNoLinks {bases deleted : List Path} (h : Sweep bases o o' deleted)
    (hlinks : o.disk.HasNoLinks) : o'.disk.HasNoLinks :=
  fun q t hfind ↦ hlinks q t (h.find? hfind)

/-- A sweep makes no directory, so that what is out of reach after it was so before. -/
theorem Sweep.isOutOfReach {bases deleted : List Path} (h : Sweep bases o o' deleted)
    (hp : o'.IsOutOfReach p) : o.IsOutOfReach p :=
  ⟨hp.long, Disk.isDir_iff.mpr (h.find? (Disk.isDir_iff.mp hp.dir))⟩

/-- Cleaning one managed directory sweeps at most that one, and leaves it clean or fails where it is
out of reach. -/
theorem sweep_of_cleanDir {bases : List Path} {dir : Text} (deleted : List Path)
    (htree : o.disk.IsTree) (hlocate : o.locate dir = .ok base) (hbase : base ∈ bases) :
    (∃ gone o', (cleanDir deleted dir).runOn o = (.ok (deleted ++ gone), o') ∧
        Sweep bases o o' gone ∧ o'.IsClean base ∧ ∀ kept, o.IsClean kept → o'.IsClean kept) ∨
      (cleanDir deleted dir).runOn o = (.error .blocked, o) ∧ o.IsOutOfReach base := by
  rw [runOn_cleanDir deleted hlocate]
  rcases look_eq base o with ⟨hlook, hreach⟩ | hlook
  · rw [hlook]
    exact Or.inr ⟨rfl, hreach⟩
  · rw [hlook]
    simp only
    left
    split
    · exact ⟨_, _, rfl, .of_swept htree hbase, isClean_swept htree base,
        fun kept hclean ↦ hclean.swept htree base⟩
    · next hdir =>
      exact ⟨[], o, by rw [List.append_nil], .refl bases htree, isClean_of_ne_dir htree hdir,
        fun _ hclean ↦ hclean⟩

/-- Cleaning managed directories in turn leaves all of them clean, or fails where one is out of
reach. -/
theorem sweep_of_foldlM_cleanDir {bases : List Path} {dirs : List Text} (deleted : List Path)
    (htree : o.disk.IsTree) (hlinks : o.disk.HasNoLinks)
    (hdirs : ∀ dir ∈ dirs, ∃ base ∈ bases, o.locate dir = .ok base) :
    ∃ gone o', Sweep bases o o' gone ∧ (∀ kept, o.IsClean kept → o'.IsClean kept) ∧
      ((dirs.foldlM cleanDir deleted).runOn o = (.ok (deleted ++ gone), o') ∧
          (∀ dir ∈ dirs, ∀ base, o.locate dir = .ok base → o'.IsClean base) ∨
        (dirs.foldlM cleanDir deleted).runOn o = (.error .blocked, o') ∧
          ∃ base ∈ bases, o.IsOutOfReach base) := by
  induction dirs generalizing deleted o with
  | nil =>
    exact ⟨[], o, .refl bases htree, fun _ hclean ↦ hclean,
      Or.inl ⟨by simp, fun dir hdir ↦ absurd hdir List.not_mem_nil⟩⟩
  | cons dir dirs ih =>
    obtain ⟨base, hbase, hlocate⟩ := hdirs dir List.mem_cons_self
    rw [List.foldlM_cons]
    rcases sweep_of_cleanDir deleted htree hlocate hbase with
      ⟨gone, o', hrun, hsweep, hclean, hkeep⟩ | ⟨hrun, hreach⟩
    · have hsame : ∀ path, o'.locate path = o.locate path :=
        locate_eq_of_hasNoLinks hlinks (hsweep.hasNoLinks hlinks) hsweep.root
      obtain ⟨rest, o'', hsweep', hkeep', hresult⟩ := ih (deleted ++ gone) hsweep.isTree
        (hsweep.hasNoLinks hlinks) fun dir' hdir' ↦ by
          rw [hsame]
          exact hdirs dir' (List.mem_cons_of_mem _ hdir')
      refine ⟨gone ++ rest, o'', hsweep.trans hsweep',
        fun kept hclean ↦ hkeep' kept (hkeep kept hclean), ?_⟩
      rw [ExceptT.runOn_bind, hrun]
      rcases hresult with ⟨hrun', hall⟩ | ⟨hrun', base', hbase', hreach⟩
      · refine Or.inl ⟨by rw [← List.append_assoc]; exact hrun', fun dir' hdir' base' hbase' ↦ ?_⟩
        rcases List.mem_cons.mp hdir' with rfl | hrest
        · cases hlocate.symm.trans hbase'
          exact hkeep' base hclean
        · exact hall dir' hrest base' ((hsame dir').trans hbase')
      · exact Or.inr ⟨hrun', base', hbase', hsweep.isOutOfReach hreach⟩
    · refine ⟨[], o, .refl bases htree, fun _ hclean ↦ hclean, Or.inr ⟨?_, base, hbase, hreach⟩⟩
      rw [ExceptT.runOn_bind, hrun]

/-- Deleting stale files before the end of writing is refused and changes nothing. -/
theorem runOn_deleteStale_of_open (hopen : o.isFinal = false) :
    deleteStale.runOn o = (.error .unfinished, o) := by
  simp [deleteStale, ExceptT.runOn_bind, hopen]

/-- Deleting stale files sweeps the managed directories: all of them are clean after it, or one is
out of reach. -/
theorem sweep_of_deleteStale {bases : List Path} (hfinal : o.isFinal = true)
    (htree : o.disk.IsTree) (hlinks : o.disk.HasNoLinks)
    (hdirs : ∀ dir ∈ o.managed, ∃ base ∈ bases, o.locate dir = .ok base) :
    ∃ gone, Sweep bases o (deleteStale.runOn o).2 gone ∧
      ((deleteStale.runOn o).1 = .ok gone ∧
          (∀ dir ∈ o.managed, ∀ base, o.locate dir = .ok base →
            (deleteStale.runOn o).2.IsClean base) ∨
        (deleteStale.runOn o).1 = .error .blocked ∧ ∃ base ∈ bases, o.IsOutOfReach base) := by
  obtain ⟨gone, o', hsweep, -, ⟨hrun, hclean⟩ | ⟨hrun, hreach⟩⟩ :=
    sweep_of_foldlM_cleanDir [] htree hlinks hdirs
  · have hresult : deleteStale.runOn o = (.ok gone, { o' with
        stats := { o'.stats with deleted := o'.stats.deleted + gone.length } }) := by
      simp only [deleteStale, ExceptT.runOn_bind, ExceptT.runOn_get, hfinal, Bool.not_true,
        Bool.false_eq_true, if_false, hrun, List.nil_append, ExceptT.runOn_modify,
        ExceptT.runOn_pure]
    rw [hresult]
    exact ⟨gone, ⟨hsweep.root, hsweep.managed, hsweep.intents, hsweep.isFinal, hsweep.isTree,
        hsweep.find?, hsweep.file, hsweep.reason, hsweep.nodup⟩,
      Or.inl ⟨rfl, fun dir hdir base hbase ↦
        ⟨(hclean dir hdir base hbase).wanted, (hclean dir hdir base hbase).filled⟩⟩⟩
  · have hresult : deleteStale.runOn o = (.error .blocked, o') := by
      simp [deleteStale, ExceptT.runOn_bind, hfinal, hrun]
    rw [hresult]
    exact ⟨gone, hsweep, Or.inr ⟨rfl, hreach⟩⟩

end ApiSite.Output
