import ApiSite.Output.Writer
import ApiSite.Proofs.Output.Tree
import ApiSite.Proofs.Running

/-!
# Edits of the output

An edit writes a file, writes a scaffold file or puts an import into a file. It is refused once
writing has ended (`Edit.runOn_of_isFinal`) or where its path leads out of the output
(`Edit.runOn_of_locate_error`); a refused edit changes nothing. What an accepted edit does is said
once, by `Edit.accepted`: the tree changes as `Edit.Outcome` lists, the run wants the file from then
on unless the edit is a patch, and the rest of what governs later calls stays. All that is needed of
edits later follows from that list.

Without symbolic links a path leads where its parts say (`follow_of_hasNoLinks`), so that it leads
to the same place all through a run (`locate_eq_of_hasNoLinks`).
-/

set_option autoImplicit false

namespace ApiSite.Output

variable {o o' : Output} {p q : Path}

/-! ### Steps of writing -/

@[simp] theorem runOn_located (path : Text) (o : Output) :
    (located path).runOn o = (o.locate path, o) := by
  simp only [located, ExceptT.runOn_bind, ExceptT.runOn_get]
  cases o.locate path <;> rfl

@[simp] theorem runOn_looked (p : Path) (o : Output) : (looked p).runOn o = (o.look p, o) := by
  simp only [looked, ExceptT.runOn_bind, ExceptT.runOn_get]
  cases o.look p <;> rfl

@[simp] theorem runOn_checkOpen (o : Output) :
    checkOpen.runOn o = (if o.isFinal then .error .finalized else .ok (), o) := by
  simp only [checkOpen, ExceptT.runOn_bind, ExceptT.runOn_get]
  split <;> rfl

/-! ### Where paths lead -/

/-- Without links a path is walked part by part. -/
theorem Path.follow_of_no_links (depth : Nat) (active : List Path) (p : Path) (parts : List Text) :
    Path.follow (fun _ ↦ none) depth active p parts = .ok (Path.walk p parts) := by
  induction parts generalizing p with
  | nil => simp [Path.follow, Path.walk]
  | cons part rest ih =>
    rw [Path.follow, Path.walk]
    split
    · exact ih p
    · split
      · exact ih _
      · exact ih _

theorem linkAt?_of_hasNoLinks (hlinks : o.disk.HasNoLinks) : o.linkAt? = fun _ ↦ none := by
  funext r
  rw [linkAt?, Option.bind_eq_none_iff]
  intro s _
  unfold Disk.link?
  split
  · next t hfind => exact absurd hfind (hlinks s t)
  · rfl

/-- Where a path leads in an output without symbolic links. -/
theorem follow_of_hasNoLinks (hlinks : o.disk.HasNoLinks) (path : Text) :
    o.follow path = .ok (Path.walk (Path.startOf path o.root) (Text.splitOn '/' path)) := by
  rw [follow, linkAt?_of_hasNoLinks hlinks, Path.follow_of_no_links]

/-- A path leads to the same place as long as the root is the same and there are no links. -/
theorem locate_eq_of_hasNoLinks (hlinks : o.disk.HasNoLinks) (hlinks' : o'.disk.HasNoLinks)
    (hroot : o'.root = o.root) (path : Text) : o'.locate path = o.locate path := by
  unfold locate
  rw [follow_of_hasNoLinks hlinks, follow_of_hasNoLinks hlinks', hroot]

/-- A path that is accepted leads to a place strictly below the root, and holds no null
character. -/
theorem locate_eq_ok_iff {path : Text} :
    o.locate path = .ok p ↔
      path.contains '\x00' = false ∧ o.follow path = .ok (o.root ++ p) ∧ p ≠ [] := by
  unfold locate
  constructor
  · intro h
    split at h
    · simp at h
    · next hnull =>
      split at h
      · simp at h
      · next found hfollow =>
        split at h
        · next part rest hafter =>
          rw [Path.after?_eq_some_iff] at hafter
          cases h
          exact ⟨by simpa using hnull, hafter ▸ hfollow, by simp⟩
        · simp at h
  · rintro ⟨hnull, hfollow, hne⟩
    rw [hnull, hfollow]
    simp only [Bool.false_eq_true, if_false]
    rw [Path.after?_eq_some_iff.mpr rfl]
    cases p with
    | nil => exact absurd rfl hne
    | cons part rest => rfl

/-- Without links it is enough to walk along the parts of a path. -/
theorem locate_eq_ok_of_walk {path : Text} (hlinks : o.disk.HasNoLinks)
    (hnull : path.contains '\x00' = false)
    (hwalk : Path.walk (Path.startOf path o.root) (Text.splitOn '/' path) = o.root ++ p)
    (hne : p ≠ []) : o.locate path = .ok p :=
  locate_eq_ok_iff.mpr ⟨hnull, by rw [follow_of_hasNoLinks hlinks, hwalk], hne⟩

theorem ne_nil_of_locate {path : Text} (h : o.locate path = .ok p) : p ≠ [] :=
  (locate_eq_ok_iff.mp h).2.2

/-! ### Edits -/

/-- A call that may write a file. -/
inductive Edit where
  | write (path text : Text)
  | scaffold (path text : Text)
  | patch (path line : Text)
  deriving DecidableEq, Repr

namespace Edit

/-- The path that an edit names. -/
def path : Edit → Text
  | write path _ | scaffold path _ | patch path _ => path

/-- What the run wants once an edit has been accepted; a patch wants nothing. -/
def intent? : Edit → Option Intent
  | write _ text => some ⟨text, false⟩
  | scaffold _ text => some ⟨text, true⟩
  | patch _ _ => none

/-- Whether an edit may change a file that exists. -/
def mayRewrite : Edit → Bool
  | write _ _ | patch _ _ => true
  | scaffold _ _ => false

/-- Carries out an edit; says whether it changed a file. -/
def perform : Edit → Writing Bool
  | write path text => Output.write path text
  | scaffold path text => Output.writeScaffold path text
  | patch path line => Output.patchImport path line

/-- Carries out an edit at the place that its path leads to. -/
def performAt (p : Path) : Edit → Writing Bool
  | write _ text => do
    if (← get).isWanted p then modify (say (.writtenTwice p))
    want p ⟨text, false⟩
    update p text
  | scaffold _ text => do
    want p ⟨text, true⟩
    create p text
  | patch _ line => restoreImport p line

/-- What an accepted edit at a place answers and makes of the tree. -/
inductive Outcome (d : Disk) (p : Path) : Edit → Except Error Bool → Disk → Prop
  /-- Something stands in the way. -/
  | blocked (e : Edit) : Outcome d p e (.error .blocked) d
  /-- A name is too long; the directories before it have been made. -/
  | tooLong (e : Edit) (made : Disk) (hmade : d.makeDirs? (reach p) = some made) :
    Outcome d p e (.error .blocked) made
  | unchanged (path text : Text) (hfind : d.find? p = some (.file text)) :
    Outcome d p (.write path text) (.ok false) d
  | written (path text : Text) (d' : Disk) (hwrite : d.write? p text = some d') :
    Outcome d p (.write path text) (.ok true) d'
  | present (path text : Text) (entry : Entry) (hfind : d.find? p = some entry) :
    Outcome d p (.scaffold path text) (.ok false) d
  | created (path text : Text) (d' : Disk) (hfind : d.find? p = none)
    (hwrite : d.write? p text = some d') : Outcome d p (.scaffold path text) (.ok true) d'
  | absent (path line : Text) (hfind : d.find? p = none) :
    Outcome d p (.patch path line) (.ok false) d
  | holding (path line text : Text) (hfind : d.find? p = some (.file text)) :
    Outcome d p (.patch path line) (.ok false) d
  | inserted (path line text : Text) (hfind : d.find? p = some (.file text)) :
    Outcome d p (.patch path line) (.ok true) (d.set p (.file
      (Text.unlines (insertImport line (Text.lines (Text.unifyLineEnds text))))))

/-- What the run wants once an edit at a place has been accepted. -/
def intentsAfter (o : Output) (p : Path) (e : Edit) : List (Path × Intent) :=
  match e.intent? with
  | some i => assignIntent p i o.intents
  | none => o.intents

/-- The answer to an accepted edit at a place and the output after it. -/
structure Accepted (o : Output) (p : Path) (e : Edit)
    (result : Except Error Bool × Output) : Prop where
  outcome : Outcome o.disk p e result.1 result.2.disk
  root : result.2.root = o.root
  managed : result.2.managed = o.managed
  isFinal : result.2.isFinal = o.isFinal
  intents : result.2.intents = intentsAfter o p e

/-- Once writing has ended, every edit is refused and changes nothing. -/
theorem runOn_of_isFinal (e : Edit) (hfinal : o.isFinal = true) :
    e.perform.runOn o = (.error .finalized, o) := by
  cases e <;>
    simp [perform, Output.write, Output.writeScaffold, Output.patchImport, ExceptT.runOn_bind,
      hfinal]

/-- An edit whose path leads to no place of the output is refused and changes nothing. -/
theorem runOn_of_locate_error (e : Edit) {error : Error} (hopen : o.isFinal = false)
    (hlocate : o.locate e.path = .error error) : e.perform.runOn o = (.error error, o) := by
  cases e <;>
    simp_all [perform, path, Output.write, Output.writeScaffold, Output.patchImport,
      ExceptT.runOn_bind]

/-- An edit is carried out at the place that its path leads to. -/
theorem runOn_of_locate (e : Edit) (hopen : o.isFinal = false) (hlocate : o.locate e.path = .ok p) :
    e.perform.runOn o = (e.performAt p).runOn o := by
  cases e <;>
    simp_all [perform, performAt, path, Output.write, Output.writeScaffold, Output.patchImport,
      ExceptT.runOn_bind]

end Edit

/-! ### What accepted edits do -/

/-- The output once the run wants a file; a generated file that it wants already is one that is
written twice. -/
def wanting (o : Output) (p : Path) (i : Intent) : Output :=
  { o with
    intents := assignIntent p i o.intents
    notices := if !i.isScaffold && o.isWanted p then o.notices ++ [.writtenTwice p]
      else o.notices }

theorem Edit.runOn_performAt_write (path text : Text) :
    ((Edit.write path text).performAt p).runOn o =
      (update p text).runOn (o.wanting p ⟨text, false⟩) := by
  simp only [performAt, want, wanting, ExceptT.runOn_bind, ExceptT.runOn_get]
  cases o.isWanted p <;> rfl

theorem Edit.runOn_performAt_scaffold (path text : Text) :
    ((Edit.scaffold path text).performAt p).runOn o =
      (create p text).runOn (o.wanting p ⟨text, true⟩) := by
  simp only [performAt, want, ExceptT.runOn_bind]
  rfl

/-- A place cannot be looked at: its path has a name that is too long for a file, and the directory
that would hold it is there. -/
structure IsOutOfReach (o : Output) (p : Path) : Prop where
  long : isTooLong p = true
  dir : o.disk.isDir (reach p) = true

/-- What stands at a place is found, or it is out of reach. -/
theorem look_eq (p : Path) (o : Output) :
    o.look p = .error .blocked ∧ o.IsOutOfReach p ∨ o.look p = .ok (o.disk.find? p) := by
  unfold look
  split
  · next hlong =>
    obtain ⟨hname, hdir⟩ := Bool.and_eq_true_iff.mp hlong
    exact Or.inl ⟨rfl, hname, hdir⟩
  · exact Or.inr rfl

/-- Putting a file at a place writes it, or fails with at most some directories made. -/
theorem runOn_put (p : Path) (text : Text) (o : Output) :
    (∃ made, (put p text).runOn o = (.error .blocked, { o with disk := made }) ∧
        (made = o.disk ∨ o.disk.makeDirs? (reach p) = some made)) ∨
      ∃ disk, o.disk.write? p text = some disk ∧ (put p text).runOn o = (.ok (), { o with
        disk := disk
        stats := { o.stats with written := o.stats.written + 1 } }) := by
  unfold put
  split
  · refine Or.inl ⟨(o.disk.makeDirs? (reach p)).getD o.disk, ?_, ?_⟩
    · simp [ExceptT.runOn_bind]
    · cases o.disk.makeDirs? (reach p) with
      | none => exact Or.inl rfl
      | some made => exact Or.inr rfl
  · simp only [ExceptT.runOn_bind, ExceptT.runOn_get]
    cases hwrite : o.disk.write? p text with
    | none => exact Or.inl ⟨o.disk, rfl, Or.inl rfl⟩
    | some disk => exact Or.inr ⟨disk, rfl, rfl⟩

namespace Edit

/-- The answer to an edit at a place whose file is wanted already, and the output after it. -/
structure Settled (o : Output) (p : Path) (e : Edit)
    (result : Except Error Bool × Output) : Prop where
  outcome : Outcome o.disk p e result.1 result.2.disk
  root : result.2.root = o.root
  managed : result.2.managed = o.managed
  isFinal : result.2.isFinal = o.isFinal
  intents : result.2.intents = o.intents

theorem Settled.of_put {e : Edit} {text : Text}
    (hwritten : ∀ d, o.disk.write? p text = some d → Outcome o.disk p e (.ok true) d) :
    Settled o p e ((do put p text; return true : Writing Bool).runOn o) := by
  rw [ExceptT.runOn_bind]
  rcases runOn_put p text o with ⟨made, hput, rfl | hmade⟩ | ⟨disk, hwrite, hput⟩
  · rw [hput]
    exact ⟨.blocked e, rfl, rfl, rfl, rfl⟩
  · rw [hput]
    exact ⟨.tooLong e made hmade, rfl, rfl, rfl, rfl⟩
  · rw [hput]
    exact ⟨hwritten disk hwrite, rfl, rfl, rfl, rfl⟩

theorem settled_update (path text : Text) :
    Settled o p (.write path text) ((update p text).runOn o) := by
  rw [update, ExceptT.runOn_bind, runOn_looked]
  rcases look_eq p o with ⟨hlook, -⟩ | hlook
  · rw [hlook]
    exact ⟨.blocked _, rfl, rfl, rfl, rfl⟩
  · rw [hlook]
    simp only
    split
    · next hsame =>
      exact ⟨.unchanged path text (by simpa using hsame), rfl, rfl, rfl, rfl⟩
    · exact Settled.of_put fun d hwrite ↦ .written path text d hwrite

theorem settled_create (path text : Text) :
    Settled o p (.scaffold path text) ((create p text).runOn o) := by
  rw [create, ExceptT.runOn_bind, runOn_looked]
  rcases look_eq p o with ⟨hlook, -⟩ | hlook
  · rw [hlook]
    exact ⟨.blocked _, rfl, rfl, rfl, rfl⟩
  · rw [hlook]
    simp only
    split
    · next hsome =>
      obtain ⟨entry, hfind⟩ := Option.isSome_iff_exists.mp hsome
      exact ⟨.present path text entry hfind, rfl, rfl, rfl, rfl⟩
    · next hnone =>
      have hfind : o.disk.find? p = none := by simpa using hnone
      exact Settled.of_put fun d hwrite ↦ .created path text d hfind hwrite

theorem settled_restoreImport (path line : Text) :
    Settled o p (.patch path line) ((restoreImport p line).runOn o) := by
  rw [restoreImport, ExceptT.runOn_bind, runOn_looked]
  rcases look_eq p o with ⟨hlook, -⟩ | hlook
  · rw [hlook]
    exact ⟨.blocked _, rfl, rfl, rfl, rfl⟩
  · rw [hlook]
    cases hfind : o.disk.find? p with
    | none => exact ⟨.absent path line hfind, rfl, rfl, rfl, rfl⟩
    | some entry =>
      cases entry with
      | file text =>
        simp only
        split
        · exact ⟨.holding path line text hfind, rfl, rfl, rfl, rfl⟩
        · exact ⟨.inserted path line text hfind, rfl, rfl, rfl, rfl⟩
      | dir => exact ⟨.blocked _, rfl, rfl, rfl, rfl⟩
      | link target => exact ⟨.blocked _, rfl, rfl, rfl, rfl⟩

/-- What an edit does that is accepted: everything that can be said of it follows from this. -/
theorem accepted (e : Edit) (hopen : o.isFinal = false) (hlocate : o.locate e.path = .ok p) :
    Accepted o p e (e.perform.runOn o) := by
  rw [e.runOn_of_locate hopen hlocate]
  cases e with
  | write path text =>
    rw [runOn_performAt_write]
    obtain ⟨houtcome, hroot, hmanaged, hfinal, hintents⟩ :=
      settled_update (o := o.wanting p ⟨text, false⟩) path text
    exact ⟨houtcome, hroot, hmanaged, hfinal, hintents⟩
  | scaffold path text =>
    rw [runOn_performAt_scaffold]
    obtain ⟨houtcome, hroot, hmanaged, hfinal, hintents⟩ :=
      settled_create (o := o.wanting p ⟨text, true⟩) path text
    exact ⟨houtcome, hroot, hmanaged, hfinal, hintents⟩
  | patch path line =>
    obtain ⟨houtcome, hroot, hmanaged, hfinal, hintents⟩ := settled_restoreImport (o := o) (p := p)
      path line
    exact ⟨houtcome, hroot, hmanaged, hfinal, hintents⟩

/-! ### What follows for the tree -/

namespace Outcome

variable {d d' : Disk} {e : Edit} {answer : Except Error Bool} {t : Text}

theorem isTree (h : Outcome d p e answer d') (htree : d.IsTree) (hp : p ≠ []) : d'.IsTree := by
  cases h with
  | tooLong e made hmade => exact htree.makeDirs? hmade
  | written path text d' hwrite => exact htree.write? hp hwrite
  | created path text d' hfind hwrite => exact htree.write? hp hwrite
  | inserted path line text hfind =>
    refine htree.set (fun r hr ↦ htree.above hfind hr) fun r f hr hbelow ↦ ?_
    rw [htree.above hr hbelow] at hfind
    cases hfind
  | _ => exact htree

theorem hasNoLinks (h : Outcome d p e answer d') (hlinks : d.HasNoLinks) : d'.HasNoLinks := by
  intro q target hlink
  cases h with
  | tooLong e made hmade =>
    rw [Disk.find?_of_makeDirs? hmade] at hlink
    split at hlink
    · cases hlink
    · exact hlinks q target hlink
  | written path text d' hwrite | created path text d' _ hwrite =>
    rw [Disk.find?_of_write? hwrite] at hlink
    split at hlink
    · cases hlink
    · split at hlink
      · cases hlink
      · exact hlinks q target hlink
  | inserted path line text hfind =>
    rw [Disk.find?_set] at hlink
    split at hlink
    · cases hlink
    · exact hlinks q target hlink
  | _ => exact hlinks q target hlink

/-- An edit changes no file but the one that it names, and that one only if it is no scaffold. -/
theorem keeps_file (h : Outcome d p e answer d') (hfile : d.find? q = some (.file t))
    (hq : q ≠ p ∨ e.mayRewrite = false) : d'.find? q = some (.file t) := by
  cases h with
  | tooLong e made hmade => exact (Disk.find?_file_of_makeDirs? hmade).mpr hfile
  | written path text d' hwrite =>
    rcases hq with hne | hrewrite
    · exact (Disk.find?_file_of_write? hwrite hne).mpr hfile
    · cases hrewrite
  | created path text d' hfind hwrite =>
    refine (Disk.find?_file_of_write? hwrite ?_).mpr hfile
    rintro rfl
    rw [hfind] at hfile
    cases hfile
  | inserted path line text hfind =>
    rcases hq with hne | hrewrite
    · rw [Disk.find?_set, if_neg hne, hfile]
    · cases hrewrite
  | _ => exact hfile

/-- An edit touches no file but the one that it names, and that one only if it says so. -/
theorem find?_file_iff (h : Outcome d p e answer d') (hq : q ≠ p ∨ answer ≠ .ok true) :
    d'.find? q = some (.file t) ↔ d.find? q = some (.file t) := by
  cases h with
  | tooLong e made hmade => exact Disk.find?_file_of_makeDirs? hmade
  | written path text d' hwrite | created path text d' _ hwrite =>
    rcases hq with hne | hanswer
    · exact Disk.find?_file_of_write? hwrite hne
    · exact absurd rfl hanswer
  | inserted path line text hfind =>
    rcases hq with hne | hanswer
    · rw [Disk.find?_set, if_neg hne]
    · exact absurd rfl hanswer
  | _ => exact Iff.rfl

theorem text?_eq (h : Outcome d p e answer d') (hq : q ≠ p ∨ answer ≠ .ok true) :
    d'.text? q = d.text? q :=
  Option.ext fun t ↦ by rw [Disk.text?_eq_some_iff, Disk.text?_eq_some_iff, h.find?_file_iff hq]

/-- An edit fails only where something stands in the way. -/
theorem eq_blocked {error : Error} (h : Outcome d p e (.error error) d') : error = .blocked := by
  cases h <;> rfl

/-- Where there was a file there is one after an edit. -/
theorem file_stays (h : Outcome d p e answer d') (hfile : d.find? q = some (.file t)) :
    ∃ u, d'.find? q = some (.file u) := by
  by_cases hq : q = p
  · subst hq
    cases h with
    | written path text d' hwrite =>
      exact ⟨text, by rw [Disk.find?_of_write? hwrite, if_pos rfl]⟩
    | inserted path line text hfind => exact ⟨_, by rw [Disk.find?_set, if_pos rfl]⟩
    | tooLong e made hmade => exact ⟨t, (Disk.find?_file_of_makeDirs? hmade).mpr hfile⟩
    | created path text d' hfind hwrite =>
      rw [hfind] at hfile
      cases hfile
    | _ => exact ⟨t, hfile⟩
  · exact ⟨t, h.keeps_file hfile (Or.inl hq)⟩

theorem file_of_write {path text : Text} {changed : Bool}
    (h : Outcome d p (.write path text) (.ok changed) d') : d'.find? p = some (.file text) := by
  cases h with
  | unchanged _ _ hfind => exact hfind
  | written _ _ _ hwrite => rw [Disk.find?_of_write? hwrite, if_pos rfl]

/-- After a scaffold file has been asked for, what was there before is there, or the file is. -/
theorem entry_of_scaffold {path text : Text} {changed : Bool}
    (h : Outcome d p (.scaffold path text) (.ok changed) d') :
    d'.find? p = some ((d.find? p).getD (.file text)) := by
  cases h with
  | present _ _ entry hfind => rw [hfind, Option.getD_some]
  | created _ _ _ hfind hwrite =>
    rw [hfind, Option.getD_none, Disk.find?_of_write? hwrite, if_pos rfl]

end Outcome

end Edit

/-! ### What the run wants -/

theorem isWanted_iff : o.isWanted q = true ↔ q ∈ o.intents.map Prod.fst := by
  simp [isWanted]

theorem mem_map_fst_assignIntent (i : Intent) (l : List (Path × Intent)) :
    q ∈ (assignIntent p i l).map Prod.fst ↔ q = p ∨ q ∈ l.map Prod.fst := by
  induction l with
  | nil => simp [assignIntent]
  | cons head rest ih =>
    obtain ⟨r, j⟩ := head
    by_cases hr : r = p
    · simp [assignIntent, hr]
    · simp only [assignIntent, if_neg hr, List.map_cons, List.mem_cons, ih]
      tauto

/-- An accepted edit makes the run want its file, unless it is a patch, and no other. -/
theorem Edit.Accepted.isWanted_iff {e : Edit} {result : Except Error Bool × Output}
    (h : Edit.Accepted o p e result) :
    result.2.isWanted q = true ↔ (e.intent?.isSome ∧ q = p) ∨ o.isWanted q = true := by
  rw [Output.isWanted_iff, Output.isWanted_iff, h.intents, Edit.intentsAfter]
  cases e.intent? with
  | none => simp
  | some i => simp [mem_map_fst_assignIntent]

end ApiSite.Output
