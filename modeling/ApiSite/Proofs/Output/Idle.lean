import ApiSite.Proofs.Output.Convergence
import ApiSite.Proofs.Text

/-!
# Edits that have nothing to do

An edit is done (`Edit.IsDone`) if what it is for is there already: the text of a write, something
at the place of a scaffold file, the line of a patch. An edit that is done changes no file and
counts none as written (`Edit.IsDone.idle`). An edit that succeeds is done afterwards
(`Edit.isDone_of_succeeds`), and it stays done as long as no other edit rewrites its file
(`Edit.IsDone.of_outcome`).

For a patch this rests on `holdsLine_insertImport`: an import that has been put into a text is one
of its lines when the text is read again, so that it is not put in twice.
-/

set_option autoImplicit false

namespace ApiSite.Output

variable {o : Output} {d d' : Disk} {p q : Path} {e : Edit} {changed : Bool} {line : Text}

/-! ### Lines that have been put in -/

/-- Whether one of the lines of a text is a given one, apart from the blanks at its ends. -/
def holdsLine (line text : Text) : Bool :=
  (Text.lines (Text.unifyLineEnds text)).any fun l ↦ Text.strip l == Text.strip line

theorem mem_insertImport (line : Text) (lines : List Text) : line ∈ insertImport line lines :=
  List.mem_append_right _ List.mem_cons_self

theorem mem_of_mem_insertImport {lines : List Text} {l : Text} (h : l ∈ insertImport line lines) :
    l = line ∨ l ∈ lines := by
  rcases List.mem_append.mp h with htake | hrest
  · exact Or.inr (List.take_subset _ _ htake)
  · rcases List.mem_cons.mp hrest with rfl | hrest
    · exact Or.inl rfl
    · rw [List.mem_reverse] at hrest
      exact Or.inr (List.mem_reverse.mp ((List.takeWhile_sublist _).subset hrest))

/-- A text into which an import has been put has no carriage return. -/
theorem return_not_mem_insertImport (hreturn : '\r' ∉ line) (text : Text) : '\r' ∉ Text.unlines
    (insertImport line (Text.lines (Text.unifyLineEnds text))) := by
  intro hmem
  rcases Text.mem_of_mem_join hmem with hsep | ⟨l, hl, hmem⟩
  · cases List.mem_singleton.mp hsep
  · rcases mem_of_mem_insertImport hl with rfl | hl
    · contradiction
    · exact Text.not_mem_unifyLineEnds text (Text.mem_of_mem_splitOn hl hmem)

/-- An import that has been put into a text is found there. -/
theorem holdsLine_insertImport (hfeed : '\n' ∉ line) (hreturn : '\r' ∉ line) (text : Text) :
    holdsLine line (Text.unlines
      (insertImport line (Text.lines (Text.unifyLineEnds text)))) = true := by
  have hpieces : ∀ l ∈ insertImport line (Text.lines (Text.unifyLineEnds text)), '\n' ∉ l := by
    intro l hl
    rcases mem_of_mem_insertImport hl with rfl | hl
    · exact hfeed
    · exact Text.not_mem_of_mem_splitOn hl
  unfold holdsLine
  rw [Text.unifyLineEnds_eq_self (return_not_mem_insertImport hreturn text), Text.lines,
    Text.splitOn_join (List.ne_nil_of_mem (mem_insertImport _ _)) hpieces]
  exact List.any_eq_true.mpr ⟨line, mem_insertImport _ _, beq_self_eq_true _⟩

namespace Edit

/-! ### Edits that are done -/

/-- What an edit at a place is for is there already. -/
def IsDone (d : Disk) (p : Path) : Edit → Prop
  | write _ text => d.find? p = some (.file text)
  | scaffold _ _ => d.find? p ≠ none
  | patch _ line => ∃ text, d.find? p = some (.file text) ∧ holdsLine line text = true

theorem IsDone.find?_ne_none (h : e.IsDone d p) : d.find? p ≠ none := by
  cases e with
  | write path text => exact Option.ne_none_iff_exists'.mpr ⟨_, h⟩
  | scaffold path text => exact h
  | patch path line =>
    obtain ⟨text, hfile, -⟩ := h
    exact Option.ne_none_iff_exists'.mpr ⟨_, hfile⟩

/-- An edit that leaves every file as it is. -/
structure Idle (o : Output) (result : Except Error Bool × Output) : Prop where
  answer : result.1 = .ok false
  disk : result.2.disk = o.disk
  written : result.2.stats.written = o.stats.written
  deleted : result.2.stats.deleted = o.stats.deleted

theorem look_of_not_isTooLong (hname : isTooLong p = false) (o : Output) :
    o.look p = .ok (o.disk.find? p) := by
  rw [look, hname, Bool.false_and, if_neg Bool.false_ne_true]

theorem idle_update {text : Text} (hname : isTooLong p = false)
    (hfile : o.disk.find? p = some (.file text)) : Idle o ((update p text).runOn o) := by
  rw [update, ExceptT.runOn_bind, runOn_looked, look_of_not_isTooLong hname, hfile]
  simp only [beq_self_eq_true, if_true, ExceptT.runOn_bind, ExceptT.runOn_modify,
    ExceptT.runOn_pure]
  exact ⟨rfl, rfl, rfl, rfl⟩

theorem idle_create {text : Text} (hname : isTooLong p = false) (hfind : o.disk.find? p ≠ none) :
    Idle o ((create p text).runOn o) := by
  obtain ⟨entry, hentry⟩ := Option.ne_none_iff_exists'.mp hfind
  rw [create, ExceptT.runOn_bind, runOn_looked, look_of_not_isTooLong hname, hentry]
  exact ⟨rfl, rfl, rfl, rfl⟩

theorem idle_restoreImport {text : Text} (hname : isTooLong p = false)
    (hfile : o.disk.find? p = some (.file text)) (hline : holdsLine line text = true) :
    Idle o ((restoreImport p line).runOn o) := by
  rw [restoreImport, ExceptT.runOn_bind, runOn_looked, look_of_not_isTooLong hname, hfile]
  simp only
  rw [if_pos (by exact hline)]
  exact ⟨rfl, rfl, rfl, rfl⟩

/-- An edit that is done has nothing to do. -/
theorem IsDone.idle (h : e.IsDone o.disk p) (hopen : o.isFinal = false)
    (hlocate : o.locate e.path = .ok p) (hname : isTooLong p = false) :
    Idle o (e.perform.runOn o) := by
  rw [e.runOn_of_locate hopen hlocate]
  cases e with
  | write path text =>
    rw [runOn_performAt_write]
    obtain ⟨hanswer, hdisk, hwritten, hdeleted⟩ :=
      idle_update (o := o.wanting p ⟨text, false⟩) hname h
    exact ⟨hanswer, hdisk, hwritten, hdeleted⟩
  | scaffold path text =>
    rw [runOn_performAt_scaffold]
    obtain ⟨hanswer, hdisk, hwritten, hdeleted⟩ :=
      idle_create (o := o.wanting p ⟨text, true⟩) hname h
    exact ⟨hanswer, hdisk, hwritten, hdeleted⟩
  | patch path line =>
    obtain ⟨text, hfile, hline⟩ := h
    exact idle_restoreImport hname hfile hline

/-! ### Edits that succeed are done -/

/-- After a patch that succeeds, a file that was there has the line. -/
theorem holdsLine_of_restoreImport (hfeed : '\n' ∉ line) (hreturn : '\r' ∉ line)
    (hfind : o.disk.find? p ≠ none) (hok : ((restoreImport p line).runOn o).1 = .ok changed) :
    ∃ text, ((restoreImport p line).runOn o).2.disk.find? p = some (.file text) ∧
      holdsLine line text = true := by
  rw [restoreImport, ExceptT.runOn_bind, runOn_looked] at hok ⊢
  rcases look_eq p o with ⟨hlook, -⟩ | hlook
  · rw [hlook] at hok
    cases hok
  · rw [hlook] at hok ⊢
    cases hentry : o.disk.find? p with
    | none => exact absurd hentry hfind
    | some entry =>
      rw [hentry] at hok
      cases entry with
      | file text =>
        simp only
        split
        · next hline => exact ⟨text, hentry, hline⟩
        · refine ⟨_, ?_, holdsLine_insertImport hfeed hreturn text⟩
          simp only [ExceptT.runOn_bind, ExceptT.runOn_modify, ExceptT.runOn_pure, say]
          rw [Disk.find?_set, if_pos rfl]
      | dir => cases hok
      | link target => cases hok

/-- A patch is one that can be found again: its line is a single one, and there is something to
patch. -/
def IsFindable (d : Disk) (p : Path) : Edit → Prop
  | patch _ line => '\n' ∉ line ∧ '\r' ∉ line ∧ d.find? p ≠ none
  | _ => True

/-- An edit that succeeds is done afterwards. -/
theorem isDone_of_succeeds (hopen : o.isFinal = false) (hlocate : o.locate e.path = .ok p)
    (hfindable : e.IsFindable o.disk p) (hok : (e.perform.runOn o).1 = .ok changed) :
    e.IsDone (e.perform.runOn o).2.disk p := by
  have houtcome := (e.accepted hopen hlocate).outcome
  rw [hok] at houtcome
  cases e with
  | write path text => exact houtcome.file_of_write
  | scaffold path text =>
    exact Option.ne_none_iff_exists'.mpr ⟨_, houtcome.entry_of_scaffold⟩
  | patch path line =>
    obtain ⟨hfeed, hreturn, hfind⟩ := hfindable
    rw [(patch path line).runOn_of_locate hopen hlocate, performAt] at hok ⊢
    exact holdsLine_of_restoreImport hfeed hreturn hfind hok

/-- A place at which a file is put has no name that is too long. -/
theorem not_isTooLong_of_put {text : Text} {next : Unit → Writing Bool}
    (hok : ((put p text >>= next).runOn o).1 = .ok changed) : isTooLong p = false := by
  by_contra hname
  rw [put, if_pos (by simpa using hname)] at hok
  simp [ExceptT.runOn_bind] at hok

/-- Where something is found in a tree, no name is too long: what is above it is a directory. -/
theorem not_isTooLong_of_look {entry : Entry} (htree : o.disk.IsTree)
    (hlook : o.look p = .ok (some entry)) : isTooLong p = false := by
  by_contra hname
  have hlong : isTooLong p = true := by simpa using hname
  rw [look, hlong, Bool.true_and] at hlook
  split at hlook
  · cases hlook
  · next hdir =>
    refine hdir (Disk.isDir_iff.mpr (htree.above (Except.ok.inj hlook) ?_))
    refine Path.isBelow_iff.mpr ⟨List.takeWhile_prefix _, ?_⟩
    simpa [isTooLong] using hlong

theorem not_isTooLong_of_update {text : Text} (htree : o.disk.IsTree)
    (hok : ((update p text).runOn o).1 = .ok changed) : isTooLong p = false := by
  rw [update, ExceptT.runOn_bind, runOn_looked] at hok
  rcases hlook : o.look p with error | found
  · rw [hlook] at hok
    cases hok
  · rw [hlook] at hok
    simp only at hok
    split at hok
    · next hsame =>
      rw [beq_iff_eq] at hsame
      exact not_isTooLong_of_look htree (hsame ▸ hlook)
    · exact not_isTooLong_of_put hok

theorem not_isTooLong_of_create {text : Text} (htree : o.disk.IsTree)
    (hok : ((create p text).runOn o).1 = .ok changed) : isTooLong p = false := by
  rw [create, ExceptT.runOn_bind, runOn_looked] at hok
  rcases hlook : o.look p with error | found
  · rw [hlook] at hok
    cases hok
  · rw [hlook] at hok
    simp only at hok
    split at hok
    · next hsome =>
      obtain ⟨entry, rfl⟩ := Option.isSome_iff_exists.mp hsome
      exact not_isTooLong_of_look htree hlook
    · exact not_isTooLong_of_put hok

/-- An edit that asks for a file succeeds only where no name is too long. -/
theorem not_isTooLong_of_succeeds (hopen : o.isFinal = false) (hlocate : o.locate e.path = .ok p)
    (htree : o.disk.IsTree) (hintent : e.intent?.isSome = true)
    (hok : (e.perform.runOn o).1 = .ok changed) : isTooLong p = false := by
  rw [e.runOn_of_locate hopen hlocate] at hok
  cases e with
  | write path text =>
    rw [runOn_performAt_write] at hok
    exact not_isTooLong_of_update (o := o.wanting p ⟨text, false⟩) htree hok
  | scaffold path text =>
    rw [runOn_performAt_scaffold] at hok
    exact not_isTooLong_of_create (o := o.wanting p ⟨text, true⟩) htree hok
  | patch path line => cases hintent

/-! ### Edits stay done -/

namespace Outcome

/-- Where there is something before an edit that succeeds, there is something after it. -/
theorem find?_ne_none (h : Outcome d q e (.ok changed) d') (hfind : d.find? p ≠ none) :
    d'.find? p ≠ none := by
  cases h with
  | written path text d' hwrite | created path text d' _ hwrite =>
    rw [Disk.find?_of_write? hwrite]
    split
    · simp
    · split
      · simp
      · exact hfind
  | inserted path line text hfile =>
    rw [Disk.find?_set]
    split
    · simp
    · exact hfind
  | _ => exact hfind

/-- A directory that appears is made for a file that an edit puts below it. -/
theorem file_below (h : Outcome d q e (.ok changed) d') (hdir : d'.find? p = some .dir) :
    d.find? p = some .dir ∨
      e.intent?.isSome = true ∧ Path.isBelow p q = true ∧ ∃ t, d'.find? q = some (.file t) := by
  cases h with
  | written path text d' hwrite | created path text d' _ hwrite =>
    have hplace := Disk.find?_of_write? (q := q) hwrite
    rw [if_pos rfl] at hplace
    rw [Disk.find?_of_write? hwrite] at hdir
    split at hdir
    · cases hdir
    · next hne =>
      split at hdir
      · next hbegin =>
        have hbelow : p <+: q := hbegin.trans (List.dropLast_prefix q)
        exact Or.inr ⟨rfl, Path.isBelow_iff.mpr ⟨hbelow, hne⟩, text, hplace⟩
      · exact Or.inl hdir
  | inserted path line text hfile =>
    rw [Disk.find?_set] at hdir
    split at hdir
    · cases hdir
    · exact Or.inl hdir
  | _ => exact Or.inl hdir

end Outcome

/-- An edit that is done stays so where no other one rewrites its file. -/
theorem IsDone.of_outcome {e' : Edit} (h : e.IsDone d p)
    (houtcome : Outcome d q e' (.ok changed) d')
    (hclash : e.mayRewrite = true → e'.mayRewrite = true → p ≠ q) : e.IsDone d' p := by
  have hkeeps (hrewrite : e.mayRewrite = true) {t : Text} (hfile : d.find? p = some (.file t)) :
      d'.find? p = some (.file t) := by
    refine houtcome.keeps_file hfile ?_
    by_cases hrewrite' : e'.mayRewrite = true
    · exact Or.inl (hclash hrewrite hrewrite')
    · exact Or.inr (eq_false_of_ne_true hrewrite')
  cases e with
  | write path text => exact hkeeps rfl h
  | scaffold path text => exact houtcome.find?_ne_none h
  | patch path line =>
    obtain ⟨text, hfile, hline⟩ := h
    exact ⟨text, hkeeps rfl hfile, hline⟩

end Edit

end ApiSite.Output
