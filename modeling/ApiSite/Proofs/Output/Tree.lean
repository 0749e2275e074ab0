import ApiSite.Output.Disk
import Mathlib.Data.List.Infix
import Mathlib.Data.List.Nodup

/-!
# Trees of files and what is done to them

A `Disk` lists its entries by their paths. It is a tree (`Disk.IsTree`) if every path occurs once
and everything above an entry is a directory. What is at each path after an operation is said by one
lemma for the operation (`find?_set`, `find?_erase`, `find?_of_makeDirs?`, `find?_of_write?`), and
each operation of a run keeps the tree a tree.

Removing the empty directories below a path goes from the deepest one up, so that a directory that
becomes empty by this is removed too: `exists_below_of_removeEmptyDirs` says that none is left, and
`find?_removeEmptyDirs` that nothing but directories has gone.
-/

set_option autoImplicit false

namespace ApiSite.Output

/-! ### Paths -/

namespace Path

variable {base p q : Path}

theorem after?_eq_some_iff {rest : Path} : after? base p = some rest ↔ p = base ++ rest := by
  induction base generalizing p with
  | nil => simp [after?]
  | cons part base ih =>
    cases p with
    | nil => simp [after?]
    | cons first p =>
      by_cases hpart : part = first
      · simp [after?, hpart, ih]
      · simp [after?, hpart, Ne.symm hpart]

/-- A path is below another one if it goes on where that one ends. -/
theorem isBelow_iff : isBelow base p = true ↔ base <+: p ∧ base ≠ p := by
  unfold isBelow
  constructor
  · intro h
    split at h
    · next part rest hafter =>
      rw [after?_eq_some_iff] at hafter
      exact ⟨⟨_, hafter.symm⟩, by rw [hafter]; simp⟩
    · simp at h
  · rintro ⟨⟨rest, rfl⟩, hne⟩
    cases rest with
    | nil => simp at hne
    | cons part rest => rw [after?_eq_some_iff.mpr rfl]

theorem isBelow_trans (hpq : isBelow p q = true) (hbase : isBelow base p = true) :
    isBelow base q = true := by
  rw [isBelow_iff] at *
  refine ⟨hbase.1.trans hpq.1, ?_⟩
  rintro rfl
  exact hpq.2 (hpq.1.eq_of_length_le hbase.1.length_le)

theorem length_lt_of_isBelow (h : isBelow p q = true) : p.length < q.length := by
  rw [isBelow_iff] at h
  refine lt_of_le_of_ne h.1.length_le fun hlength ↦ h.2 (h.1.eq_of_length hlength)

theorem not_isBelow_self (p : Path) : ¬ isBelow p p = true :=
  fun h ↦ lt_irrefl _ (length_lt_of_isBelow h)

/-- What is above a path is the directory around it or above that one. -/
theorem isBelow_iff_prefix_dropLast (hp : p ≠ []) :
    isBelow q p = true ↔ q <+: p.dropLast := by
  have hsplit := List.dropLast_concat_getLast hp
  rw [isBelow_iff]
  constructor
  · rintro ⟨hbegin, hne⟩
    rw [← hsplit, List.prefix_concat_iff] at hbegin
    rcases hbegin with heq | hbegin
    · exact absurd (heq.trans hsplit) hne
    · exact hbegin
  · intro hbegin
    refine ⟨hbegin.trans (List.dropLast_prefix p), ?_⟩
    rintro rfl
    have hlength := hbegin.length_le
    have hpositive := List.length_pos_of_ne_nil hp
    rw [List.length_dropLast] at hlength
    omega

end Path

/-! ### What is at a path -/

namespace Disk

variable {d d' : Disk} {p q base : Path} {e : Entry}

theorem find?_assign (l : List (Path × Entry)) :
    find? ⟨assign p e l⟩ q = if q = p then some e else find? ⟨l⟩ q := by
  induction l with
  | nil =>
    by_cases hq : q = p
    · simp [assign, find?, hq]
    · simp [assign, find?, hq, Ne.symm hq]
  | cons head rest ih =>
    obtain ⟨r, f⟩ := head
    simp only [find?] at ih ⊢
    by_cases hr : r = p
    · subst hr
      by_cases hq : q = r
      · simp [assign, hq]
      · simp [assign, hq, Ne.symm hq]
    · by_cases hq : r = q
      · subst hq
        simp [assign, hr]
      · simpa [assign, hr, hq] using ih

@[simp] theorem find?_set : (d.set p e).find? q = if q = p then some e else d.find? q :=
  find?_assign d.entries

@[simp] theorem find?_erase : (d.erase p).find? q = if q = p then none else d.find? q := by
  obtain ⟨entries⟩ := d
  simp only [find?, erase]
  induction entries with
  | nil => simp
  | cons head rest ih =>
    obtain ⟨r, f⟩ := head
    by_cases hr : r = p
    · subst hr
      by_cases hq : q = r
      · simp [hq]
      · simpa [hq, Ne.symm hq] using ih
    · by_cases hq : r = q
      · subst hq
        simp [hr]
      · simpa [hr, hq] using ih

theorem mem_entries_of_find? (h : d.find? p = some e) : (p, e) ∈ d.entries := by
  obtain ⟨⟨r, f⟩, hfind, hentry⟩ := Option.map_eq_some_iff.mp h
  have hkey := List.find?_some hfind
  simp only [beq_iff_eq] at hkey
  subst hkey
  rw [← hentry]
  exact List.mem_of_find?_eq_some hfind

theorem find?_of_mem_entries (hnodup : (d.entries.map Prod.fst).Nodup) (h : (p, e) ∈ d.entries) :
    d.find? p = some e := by
  obtain ⟨entries⟩ := d
  simp only [find?] at *
  induction entries with
  | nil => simp at h
  | cons head rest ih =>
    rw [List.map_cons, List.nodup_cons] at hnodup
    rcases List.mem_cons.mp h with rfl | hrest
    · simp
    · have hne : head.1 ≠ p := fun heq ↦
        hnodup.1 (List.mem_map.mpr ⟨(p, e), hrest, heq.symm⟩)
      simpa [hne] using ih hnodup.2 hrest

theorem isDir_iff : d.isDir p = true ↔ d.find? p = some .dir := by
  simp [isDir]

theorem text?_eq_some_iff {t : Text} : d.text? p = some t ↔ d.find? p = some (.file t) := by
  unfold text?
  split <;> simp_all

/-! ### Trees -/

/-- A tree: every path occurs once, and everything above an entry is a directory. -/
structure IsTree (d : Disk) : Prop where
  nodup : (d.entries.map Prod.fst).Nodup
  above : ∀ {p q : Path} {e : Entry}, d.find? p = some e → Path.isBelow q p = true →
    d.find? q = some .dir

/-- A tree without symbolic links. -/
def HasNoLinks (d : Disk) : Prop := ∀ p t, d.find? p ≠ some (.link t)

/-- Only what is above the entries has to be looked at. -/
theorem isTree_iff : d.IsTree ↔ (d.entries.map Prod.fst).Nodup ∧
    ∀ x ∈ d.entries, ∀ q ∈ x.1.inits, q = x.1 ∨ d.find? q = some .dir := by
  constructor
  · refine fun htree ↦ ⟨htree.nodup, fun ⟨p, e⟩ hmem q hq ↦ or_iff_not_imp_left.mpr fun hne ↦ ?_⟩
    refine htree.above (find?_of_mem_entries htree.nodup hmem) (Path.isBelow_iff.mpr ⟨?_, hne⟩)
    exact (List.mem_inits q p).mp hq
  · rintro ⟨hnodup, habove⟩
    refine ⟨hnodup, fun {p q e} hfind hbelow ↦ ?_⟩
    obtain ⟨hbegin, hne⟩ := Path.isBelow_iff.mp hbelow
    exact (habove (p, e) (mem_entries_of_find? hfind) q
      ((List.mem_inits q p).mpr hbegin)).resolve_left hne

instance : Decidable d.IsTree := decidable_of_iff _ isTree_iff.symm

theorem hasNoLinks_of_all
    (h : d.entries.all fun x ↦ match x.2 with | .link _ => false | _ => true) :
    d.HasNoLinks := by
  intro p t hfind
  simpa using List.all_eq_true.mp h _ (mem_entries_of_find? hfind)

theorem IsTree.mem_entries_iff (htree : d.IsTree) : (p, e) ∈ d.entries ↔ d.find? p = some e :=
  ⟨find?_of_mem_entries htree.nodup, mem_entries_of_find?⟩

theorem map_fst_assign (l : List (Path × Entry)) :
    (assign p e l).map Prod.fst =
      if p ∈ l.map Prod.fst then l.map Prod.fst else l.map Prod.fst ++ [p] := by
  induction l with
  | nil => simp [assign]
  | cons head rest ih =>
    obtain ⟨r, f⟩ := head
    by_cases hr : r = p
    · simp [assign, hr]
    · simp only [assign, if_neg hr, List.map_cons, ih, List.mem_cons, Ne.symm hr, false_or]
      split <;> rfl

theorem nodup_set (hnodup : (d.entries.map Prod.fst).Nodup) :
    ((d.set p e).entries.map Prod.fst).Nodup := by
  rw [set, map_fst_assign]
  split
  · exact hnodup
  · next habsent =>
    refine List.nodup_append.mpr ⟨hnodup, List.nodup_singleton p, fun r hr q hq ↦ ?_⟩
    rw [List.mem_singleton.mp hq]
    exact fun heq ↦ habsent (heq ▸ hr)

/-- Putting something at a path keeps a tree if all above the path is there and nothing below it. -/
theorem IsTree.set (htree : d.IsTree)
    (habove : ∀ r, Path.isBelow r p = true → d.find? r = some .dir)
    (hbelow : ∀ r f, d.find? r = some f → Path.isBelow p r = true → e = .dir) :
    (d.set p e).IsTree := by
  refine ⟨nodup_set htree.nodup, fun {r s f} hfind hs ↦ ?_⟩
  rw [find?_set] at hfind ⊢
  split at hfind
  · next hr =>
    subst hr
    rw [if_neg (by rintro rfl; exact Path.not_isBelow_self _ hs)]
    exact habove s hs
  · split
    · next hsp =>
      subst hsp
      rw [hbelow r f hfind hs]
    · exact htree.above hfind hs

/-- Removing what has nothing below it keeps a tree. -/
theorem IsTree.erase (htree : d.IsTree)
    (hbelow : ∀ r f, d.find? r = some f → ¬ Path.isBelow p r = true) : (d.erase p).IsTree := by
  refine ⟨?_, fun {r s f} hfind hs ↦ ?_⟩
  · exact htree.nodup.sublist (List.Sublist.map Prod.fst List.filter_sublist)
  · rw [find?_erase] at hfind ⊢
    split at hfind
    · simp at hfind
    · rw [if_neg (by rintro rfl; exact hbelow r f hfind hs)]
      exact htree.above hfind hs

/-! ### Making directories and writing files -/

theorem eq_dir_of_makeDir? (h : d.makeDir? p = some d') :
    (d.find? p = none ∧ d' = d.set p .dir) ∨ (d.find? p = some .dir ∧ d' = d) := by
  unfold makeDir? at h
  split at h
  · next hnone => exact Or.inl ⟨hnone, (Option.some.inj h).symm⟩
  · next hdir => exact Or.inr ⟨hdir, (Option.some.inj h).symm⟩
  · simp at h

theorem find?_of_makeDir? (h : d.makeDir? p = some d') :
    d'.find? q = if q = p then some .dir else d.find? q := by
  rcases eq_dir_of_makeDir? h with ⟨_, rfl⟩ | ⟨hdir, rfl⟩
  · exact find?_set
  · split
    · next heq => rw [heq, hdir]
    · rfl

theorem IsTree.makeDir? (htree : d.IsTree) (h : d.makeDir? p = some d')
    (habove : ∀ r, Path.isBelow r p = true → d.find? r = some .dir) : d'.IsTree := by
  rcases eq_dir_of_makeDir? h with ⟨_, rfl⟩ | ⟨_, rfl⟩
  · exact htree.set habove fun _ _ _ _ ↦ rfl
  · exact htree

/-- The paths from one path on down to another are the first of them and those from the next one
on. -/
theorem prefix_append_cons_iff {start rest : Path} {name : Text} :
    start <+: q ∧ q <+: start ++ name :: rest ↔
      q = start ∨ (start ++ [name] <+: q ∧ q <+: start ++ name :: rest) := by
  constructor
  · rintro ⟨⟨more, rfl⟩, hle⟩
    cases more with
    | nil => simp
    | cons first more =>
      rw [List.prefix_append_right_inj, List.cons_prefix_cons] at hle
      obtain ⟨rfl, hle⟩ := hle
      exact Or.inr ⟨⟨more, by simp⟩, by simpa using hle⟩
  · rintro (rfl | ⟨hstart, hle⟩)
    · exact ⟨List.prefix_rfl, List.prefix_append _ _⟩
    · exact ⟨(List.prefix_append _ _).trans hstart, hle⟩

/-- Making the directories on a way puts a directory at each place of the way and changes nothing
else; before, there was nothing or a directory. -/
theorem makeDirsFrom?_spec {start rest : Path} (h : d.makeDirsFrom? start rest = some d') :
    (∀ q, d'.find? q = if start <+: q ∧ q <+: start ++ rest then some .dir else d.find? q) ∧
      ∀ q, start <+: q → q <+: start ++ rest → d.find? q = none ∨ d.find? q = some .dir := by
  induction rest generalizing start d with
  | nil =>
    simp only [makeDirsFrom?] at h
    have hiff : ∀ q : Path, (start <+: q ∧ q <+: start ++ []) ↔ q = start := fun q ↦ by
      rw [List.append_nil]
      exact ⟨fun hq ↦ (hq.2.eq_of_length_le hq.1.length_le), by rintro rfl; simp⟩
    refine ⟨fun q ↦ ?_, fun q hstart hq ↦ ?_⟩
    · rw [find?_of_makeDir? h]
      simp only [hiff]
    · rw [(hiff q).mp ⟨hstart, hq⟩]
      rcases eq_dir_of_makeDir? h with ⟨hnone, _⟩ | ⟨hdir, _⟩
      · exact Or.inl hnone
      · exact Or.inr hdir
  | cons name rest ih =>
    simp only [makeDirsFrom?] at h
    obtain ⟨first, hfirst, hrest⟩ := Option.bind_eq_some_iff.mp h
    obtain ⟨hfind, hbefore⟩ := ih hrest
    simp only [List.append_assoc, List.singleton_append] at hfind hbefore
    refine ⟨fun q ↦ ?_, fun q hstart hq ↦ ?_⟩
    · rw [hfind, find?_of_makeDir? hfirst]
      by_cases heq : q = start
      · subst heq
        simp [List.prefix_append]
      · simp only [prefix_append_cons_iff, heq, if_false, false_or]
    · rcases prefix_append_cons_iff.mp ⟨hstart, hq⟩ with rfl | ⟨hnext, _⟩
      · rcases eq_dir_of_makeDir? hfirst with ⟨hnone, _⟩ | ⟨hdir, _⟩
        · exact Or.inl hnone
        · exact Or.inr hdir
      · have hafter := hbefore q hnext hq
        rw [find?_of_makeDir? hfirst] at hafter
        split at hafter
        · next heq =>
          rw [heq] at hnext
          exact absurd hnext.length_le (by simp)
        · exact hafter

theorem IsTree.makeDirsFrom? {start rest : Path} (htree : d.IsTree)
    (h : d.makeDirsFrom? start rest = some d')
    (habove : ∀ r, Path.isBelow r start = true → d.find? r = some .dir) : d'.IsTree := by
  induction rest generalizing start d with
  | nil => exact htree.makeDir? h habove
  | cons name rest ih =>
    simp only [Disk.makeDirsFrom?] at h
    obtain ⟨first, hfirst, hrest⟩ := Option.bind_eq_some_iff.mp h
    refine ih (htree.makeDir? hfirst habove) hrest fun r hr ↦ ?_
    rw [find?_of_makeDir? hfirst]
    rw [Path.isBelow_iff_prefix_dropLast (by simp), List.dropLast_concat] at hr
    split
    · rfl
    · next hne => exact habove r (Path.isBelow_iff.mpr ⟨hr, hne⟩)

/-- Making a directory with those that it needs. -/
theorem find?_of_makeDirs? (h : d.makeDirs? p = some d') :
    d'.find? q = if q <+: p then some .dir else d.find? q := by
  simpa using (makeDirsFrom?_spec h).1 q

theorem find?_of_makeDirs?_prefix (h : d.makeDirs? p = some d') (hq : q <+: p) :
    d.find? q = none ∨ d.find? q = some .dir :=
  (makeDirsFrom?_spec h).2 q (List.nil_prefix) (by simpa using hq)

theorem IsTree.makeDirs? (htree : d.IsTree) (h : d.makeDirs? p = some d') : d'.IsTree :=
  htree.makeDirsFrom? h fun r hr ↦ absurd (Path.length_lt_of_isBelow hr) (by simp)

/-- Making directories leaves every file as it is. -/
theorem find?_file_of_makeDirs? {t : Text} (h : d.makeDirs? p = some d') :
    d'.find? q = some (.file t) ↔ d.find? q = some (.file t) := by
  rw [find?_of_makeDirs? h]
  split
  · next hq => rcases find?_of_makeDirs?_prefix h hq with hfind | hfind <;> simp [hfind]
  · rfl

/-- Writing a file puts it at its path and directories above it, and changes nothing else. -/
theorem find?_of_write? {t : Text} (h : d.write? p t = some d') :
    d'.find? q =
      if q = p then some (.file t) else if q <+: p.dropLast then some .dir else d.find? q := by
  obtain ⟨made, hmade, hset⟩ := Option.bind_eq_some_iff.mp h
  split at hset
  · simp at hset
  · rw [← Option.some.inj hset, find?_set, find?_of_makeDirs? hmade]

theorem find?_file_of_write? {t u : Text} (h : d.write? p t = some d') (hq : q ≠ p) :
    d'.find? q = some (.file u) ↔ d.find? q = some (.file u) := by
  obtain ⟨made, hmade, hset⟩ := Option.bind_eq_some_iff.mp h
  split at hset
  · simp at hset
  · rw [← Option.some.inj hset, find?_set, if_neg hq, find?_file_of_makeDirs? hmade]

theorem IsTree.write? {t : Text} (htree : d.IsTree) (hp : p ≠ []) (h : d.write? p t = some d') :
    d'.IsTree := by
  obtain ⟨made, hmade, hset⟩ := Option.bind_eq_some_iff.mp h
  split at hset
  · simp at hset
  · next hdir =>
    rw [← Option.some.inj hset]
    refine (htree.makeDirs? hmade).set (fun r hr ↦ ?_) fun r f hfind hr ↦ ?_
    · rw [Path.isBelow_iff_prefix_dropLast hp] at hr
      rw [find?_of_makeDirs? hmade, if_pos hr]
    · exact absurd (isDir_iff.mpr ((htree.makeDirs? hmade).above hfind hr)) hdir

/-! ### Files and directories below a path -/

theorem IsTree.mem_below_iff (htree : d.IsTree) :
    (p, e) ∈ d.below base ↔ d.find? p = some e ∧ Path.isBelow base p = true := by
  rw [below, List.mem_filter, htree.mem_entries_iff]

theorem IsTree.mem_filesBelow (htree : d.IsTree) :
    p ∈ d.filesBelow base ↔ Path.isBelow base p = true ∧ ∃ t, d.find? p = some (.file t) := by
  simp only [filesBelow, List.mem_mergeSort, List.mem_filterMap, Prod.exists]
  constructor
  · rintro ⟨r, f, hmem, hfile⟩
    rw [htree.mem_below_iff] at hmem
    cases f <;> simp_all
  · rintro ⟨hbelow, t, hfind⟩
    exact ⟨p, .file t, htree.mem_below_iff.mpr ⟨hfind, hbelow⟩, rfl⟩

theorem IsTree.mem_dirsBelow (htree : d.IsTree) :
    p ∈ d.dirsBelow base ↔ Path.isBelow base p = true ∧ d.find? p = some .dir := by
  simp only [dirsBelow, List.mem_mergeSort, List.mem_filterMap, Prod.exists]
  constructor
  · rintro ⟨r, f, hmem, hdir⟩
    rw [htree.mem_below_iff] at hmem
    cases f <;> simp_all
  · rintro ⟨hbelow, hfind⟩
    exact ⟨p, .dir, htree.mem_below_iff.mpr ⟨hfind, hbelow⟩, rfl⟩

theorem filterMap_sublist_map_fst {g : Path × Entry → Option Path}
    (hg : ∀ x r, g x = some r → r = x.1) (l : List (Path × Entry)) :
    (l.filterMap g).Sublist (l.map Prod.fst) := by
  induction l with
  | nil => simp
  | cons x rest ih =>
    cases hx : g x with
    | none =>
      rw [List.filterMap_cons_none hx]
      exact ih.trans (List.sublist_cons_self _ _)
    | some r =>
      rw [List.filterMap_cons_some hx, List.map_cons, hg x r hx]
      exact ih.cons_cons _

theorem IsTree.nodup_filesBelow (htree : d.IsTree) : (d.filesBelow base).Nodup := by
  rw [filesBelow, (List.mergeSort_perm _ _).nodup_iff]
  have hbelow : ((d.below base).map Prod.fst).Nodup :=
    htree.nodup.sublist (List.Sublist.map Prod.fst List.filter_sublist)
  refine hbelow.sublist (filterMap_sublist_map_fst (fun x r hx ↦ ?_) _)
  obtain ⟨path, entry⟩ := x
  cases entry <;> simp_all

/-- The directories below a path stand in their list the deepest first. -/
theorem pairwise_dirsBelow (d : Disk) (base : Path) :
    (d.dirsBelow base).Pairwise fun p q ↦ q.length ≤ p.length := by
  refine (List.pairwise_mergeSort (fun p q r hpq hqr ↦ ?_) (fun p q ↦ ?_) _).imp fun h ↦ ?_
  · simp only [decide_eq_true_eq] at *
    omega
  · simp only [Bool.or_eq_true, decide_eq_true_eq]
    omega
  · simpa using h

/-! ### Removing empty directories -/

theorem IsTree.isEmpty_below_iff (htree : d.IsTree) :
    (d.below p).isEmpty = true ↔ ∀ r f, d.find? r = some f → ¬ Path.isBelow p r = true := by
  rw [List.isEmpty_iff, List.eq_nil_iff_forall_not_mem]
  constructor
  · intro hnone r f hfind hbelow
    exact hnone (r, f) (htree.mem_below_iff.mpr ⟨hfind, hbelow⟩)
  · rintro hnone ⟨r, f⟩ hmem
    rw [htree.mem_below_iff] at hmem
    exact hnone r f hmem.1 hmem.2

theorem IsTree.removeIfEmpty (htree : d.IsTree) : (d.removeIfEmpty p).IsTree := by
  unfold Disk.removeIfEmpty
  split
  · next hempty => exact htree.erase (htree.isEmpty_below_iff.mp hempty)
  · exact htree

theorem find?_removeIfEmpty :
    (d.removeIfEmpty p).find? q = d.find? q ∨ (d.removeIfEmpty p).find? q = none ∧ q = p := by
  unfold removeIfEmpty
  split
  · by_cases hq : q = p
    · exact Or.inr ⟨by simp [hq], hq⟩
    · exact Or.inl (by simp [hq])
  · exact Or.inl rfl

theorem IsTree.foldl_removeIfEmpty (htree : d.IsTree) (dirs : List Path) :
    (dirs.foldl Disk.removeIfEmpty d).IsTree := by
  induction dirs generalizing d with
  | nil => exact htree
  | cons p dirs ih => exact ih htree.removeIfEmpty

theorem find?_foldl_removeIfEmpty (d : Disk) (dirs : List Path) (q : Path) :
    (dirs.foldl removeIfEmpty d).find? q = d.find? q ∨
      (dirs.foldl removeIfEmpty d).find? q = none ∧ q ∈ dirs := by
  induction dirs generalizing d with
  | nil => exact Or.inl rfl
  | cons p dirs ih =>
    rw [List.foldl_cons, List.mem_cons]
    rcases ih (d.removeIfEmpty p) with hrest | ⟨hnone, hmem⟩
    · rw [hrest]
      rcases find?_removeIfEmpty with hsame | ⟨hnone, heq⟩
      · exact Or.inl hsame
      · exact Or.inr ⟨hnone, Or.inl heq⟩
    · exact Or.inr ⟨hnone, Or.inr hmem⟩

/-- Going over directories from the deepest one up, each that is still there has something in
it. What is below a directory is longer than all that is looked at later, so it stays. -/
theorem exists_below_of_foldl_removeIfEmpty (htree : d.IsTree) {dirs : List Path}
    (hsorted : dirs.Pairwise fun p q ↦ q.length ≤ p.length) (hp : p ∈ dirs)
    (hfind : (dirs.foldl removeIfEmpty d).find? p = some e) :
    ∃ r f, Path.isBelow p r = true ∧ (dirs.foldl removeIfEmpty d).find? r = some f := by
  induction dirs generalizing d with
  | nil => simp at hp
  | cons first dirs ih =>
    rw [List.pairwise_cons] at hsorted
    rw [List.foldl_cons] at hfind ⊢
    rcases List.mem_cons.mp hp with rfl | hrest
    · by_cases hempty : (d.below p).isEmpty = true
      · have herased : (d.removeIfEmpty p).find? p = none := by simp [removeIfEmpty, hempty]
        rcases find?_foldl_removeIfEmpty (d.removeIfEmpty p) dirs p with hsame | ⟨hnone, _⟩
        · rw [hfind, herased] at hsame
          cases hsame
        · rw [hfind] at hnone
          cases hnone
      · have hkept : d.removeIfEmpty p = d := by simp [removeIfEmpty, hempty]
        rw [htree.isEmpty_below_iff] at hempty
        push Not at hempty
        obtain ⟨r, f, hr, hbelow⟩ := hempty
        refine ⟨r, f, hbelow, ?_⟩
        rw [hkept]
        rcases find?_foldl_removeIfEmpty d dirs r with hsame | ⟨_, hmem⟩
        · rw [hsame, hr]
        · have hlonger := Path.length_lt_of_isBelow hbelow
          have hshorter := hsorted.1 r hmem
          omega
    · exact ih htree.removeIfEmpty hsorted.2 hrest hfind

/-- Where every directory below some path has something in it, nothing is removed there. -/
theorem find?_foldl_removeIfEmpty_of_filled (htree : d.IsTree) {dirs : List Path}
    (hdirs : ∀ r ∈ dirs, d.find? r = some .dir ∨ d.find? r = none)
    (hfilled : ∀ r, Path.isBelow base r = true → d.find? r = some .dir →
      ∃ s f, Path.isBelow r s = true ∧ d.find? s = some f)
    (hq : Path.isBelow base q = true) : (dirs.foldl removeIfEmpty d).find? q = d.find? q := by
  induction dirs generalizing d with
  | nil => rfl
  | cons p dirs ih =>
    have hkept : ∀ r, Path.isBelow base r = true → (d.removeIfEmpty p).find? r = d.find? r := by
      intro r hr
      rcases find?_removeIfEmpty (d := d) (p := p) (q := r) with hsame | ⟨hnone, rfl⟩
      · exact hsame
      · rcases hdirs r (by simp) with hdir | habsent
        · obtain ⟨s, f, hs, hfind⟩ := hfilled r hr hdir
          have hfull : ¬ (d.below r).isEmpty = true := fun hempty ↦
            htree.isEmpty_below_iff.mp hempty s f hfind hs
          rw [removeIfEmpty, if_neg hfull]
        · rw [hnone, habsent]
    rw [List.foldl_cons, ← hkept q hq]
    refine ih htree.removeIfEmpty (fun r hr ↦ ?_) fun r hr hdir ↦ ?_
    · rcases find?_removeIfEmpty (d := d) (p := p) (q := r) with hsame | ⟨hnone, _⟩
      · rw [hsame]
        exact hdirs r (List.mem_cons_of_mem _ hr)
      · exact Or.inr hnone
    · rw [hkept r hr] at hdir
      obtain ⟨s, f, hs, hfind⟩ := hfilled r hr hdir
      exact ⟨s, f, hs, by rw [hkept s (Path.isBelow_trans hs hr), hfind]⟩

theorem IsTree.removeEmptyDirs (htree : d.IsTree) : (d.removeEmptyDirs base).IsTree :=
  htree.foldl_removeIfEmpty _

/-- Removing empty directories takes away nothing but directories below the path. -/
theorem IsTree.find?_removeEmptyDirs (htree : d.IsTree) (base q : Path) :
    (d.removeEmptyDirs base).find? q = d.find? q ∨
      (d.removeEmptyDirs base).find? q = none ∧ d.find? q = some .dir ∧
        Path.isBelow base q = true := by
  rcases find?_foldl_removeIfEmpty d (d.dirsBelow base) q with hsame | ⟨hnone, hmem⟩
  · exact Or.inl hsame
  · rw [htree.mem_dirsBelow] at hmem
    exact Or.inr ⟨hnone, hmem.2, hmem.1⟩

/-- Once empty directories have been removed below a path, each directory there has something in
it. -/
theorem IsTree.exists_below_of_removeEmptyDirs (htree : d.IsTree)
    (hbelow : Path.isBelow base p = true) (hdir : (d.removeEmptyDirs base).find? p = some .dir) :
    ∃ r f, Path.isBelow p r = true ∧ (d.removeEmptyDirs base).find? r = some f := by
  refine exists_below_of_foldl_removeIfEmpty htree (pairwise_dirsBelow d base) ?_ hdir
  rw [htree.mem_dirsBelow]
  rcases htree.find?_removeEmptyDirs base p with hsame | ⟨hnone, _⟩
  · exact ⟨hbelow, hsame ▸ hdir⟩
  · rw [hdir] at hnone
    cases hnone

theorem IsTree.find?_removeEmptyDirs_of_filled (htree : d.IsTree) {kept : Path}
    (hfilled : ∀ r, Path.isBelow kept r = true → d.find? r = some .dir →
      ∃ s f, Path.isBelow r s = true ∧ d.find? s = some f)
    (hq : Path.isBelow kept q = true) : (d.removeEmptyDirs base).find? q = d.find? q :=
  find?_foldl_removeIfEmpty_of_filled htree
    (fun _ hr ↦ Or.inl (htree.mem_dirsBelow.mp hr).2) hfilled hq

end Disk

end ApiSite.Output
