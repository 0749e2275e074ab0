import ApiSite.Proofs.Output.FirstRun
import ApiSite.Proofs.Run.Plan

/-!
# A second run

A run that is repeated writes nothing (`generate_again`): the second run succeeds, writes and
deletes no file, and leaves the files of the output as the first run has left them.

A run amounts to the edits of its plan, and these come to rest (`Plan.restful`). The pages go to
places of their own, by assumption; they are files in Markdown, so that none of them is one of the
files that belong to no entity or the entry of the theme, which have different names
(`pairwise_paths`). The entry of the theme is patched after it has been asked for as a scaffold
file. So the second run does nothing, as `Output.carryOut_again` says of the writer.

That a first run succeeds is clear where the output is empty and the edits of the plan fit into it
(`Plan.exists_generate`).
-/

set_option autoImplicit false

namespace ApiSite.Run

open Model Output

variable {o : Output} {p : Path} {path : Text}

/-! ### The names of places -/

/-- What stands behind the last slash of a path. -/
def lastName (path : Text) : Text := (Text.splitOn '/' path).getLast?.getD []

/-- Whether a path ends with the name of something, and not with a step to where it is or up. -/
def endsInName (path : Text) : Bool :=
  !Path.isHere (lastName path) && lastName path != ['.', '.']

theorem getLast?_walk {parts : List Text} {name : Text} (hname : parts.getLast? = some name)
    (hhere : Path.isHere name = false) (hup : name ≠ ['.', '.']) (p : Path) :
    (Path.walk p parts).getLast? = some name := by
  induction parts generalizing p with
  | nil => cases hname
  | cons part rest ih =>
    cases rest with
    | nil =>
      obtain rfl : part = name := Option.some.inj hname
      rw [Path.walk, hhere, if_neg Bool.false_ne_true, if_neg (by simpa using hup), Path.walk,
        List.getLast?_concat]
    | cons next rest =>
      rw [List.getLast?_cons_cons] at hname
      rw [Path.walk]
      split
      · exact ih hname p
      · split
        · exact ih hname _
        · exact ih hname _

/-- A path that ends in a name leads to a place of this name. -/
theorem getLast?_of_locate (hlinks : o.disk.HasNoLinks) (hname : endsInName path = true)
    (hlocate : o.locate path = .ok p) : p.getLast? = some (lastName path) := by
  obtain ⟨-, hfollow, hne⟩ := locate_eq_ok_iff.mp hlocate
  rw [follow_of_hasNoLinks hlinks] at hfollow
  obtain ⟨hhere, hup⟩ := (Bool.and_eq_true _ _).mp hname
  have hlast : (Text.splitOn '/' path).getLast? = some (lastName path) := by
    rw [lastName, List.getLast?_eq_some_getLast (Text.splitOn_ne_nil '/' path), Option.getD_some]
  have hwalk := getLast?_walk hlast (by simpa using hhere) (by simpa using hup)
    (Path.startOf path o.root)
  rw [Except.ok.inj hfollow, List.getLast?_append_of_ne_nil _ hne] at hwalk
  exact hwalk

/-- Two paths do not lead to one place. -/
def Apart (o : Output) (path path' : Text) : Prop :=
  ∀ p, o.locate path = .ok p → o.locate path' ≠ .ok p

theorem apart_of_lastName_ne {path' : Text} (hlinks : o.disk.HasNoLinks)
    (hname : endsInName path = true) (hname' : endsInName path' = true)
    (hne : lastName path ≠ lastName path') : Apart o path path' := by
  intro p hlocate hlocate'
  refine hne (Option.some.inj ?_)
  rw [← getLast?_of_locate hlinks hname hlocate, getLast?_of_locate hlinks hname' hlocate']

/-- The paths of the files that belong to no entity, and that of the entry of the theme. -/
def fixedPaths : List Text :=
  [Navigation.path, Navigation.guidePath, Navigation.stylesPath, Scaffold.themePath]

/-- A path with the ending of a file in Markdown ends in a name with this ending. -/
theorem endsInName_markdown (name : Text) : endsInName (name ++ ".md".toList) = true ∧
    (lastName (name ++ ".md".toList)).getLast? = some 'd' := by
  obtain ⟨before, hlast⟩ : ∃ before, (Text.splitOn '/' (name ++ ".md".toList)).getLast? =
      some (before ++ ".md".toList) :=
    Text.exists_getLast?_splitOn_append (by decide) name
  have hname : lastName (name ++ ".md".toList) = before ++ ".md".toList := by
    rw [lastName, hlast, Option.getD_some]
  unfold endsInName Path.isHere
  rw [hname]
  refine ⟨?_, ?_⟩
  · rw [Bool.and_eq_true, Bool.not_eq_true', Bool.or_eq_false_iff, bne_iff_ne]
    refine ⟨⟨?_, ?_⟩, fun heq ↦ ?_⟩
    · simp
    · rw [beq_eq_false_iff_ne]
      intro heq
      have hone := congrArg List.length heq
      simp at hone
    · have htwo := congrArg List.length heq
      simp at htwo
  · rw [List.getLast?_append_of_ne_nil _ (by decide)]
    rfl

theorem endsInName_of_mem_fixedPaths (hpath : path ∈ fixedPaths) :
    endsInName path = true ∧ (lastName path).getLast? ≠ some 'd' := by
  have hall : fixedPaths.all fun path ↦
      endsInName path && (lastName path).getLast? != some 'd' := rfl
  simpa using List.all_eq_true.mp hall path hpath

/-- What a run rewrites goes to places of their own, if its pages do. -/
theorem pairwise_paths {jobs : List PageJob} (hlinks : o.disk.HasNoLinks)
    (hmarkdown : ∀ job ∈ jobs, ∃ name, job.path = name ++ ".md".toList)
    (hdistinct : jobs.Pairwise fun a b ↦ Apart o a.path b.path) :
    (jobs.map PageJob.path ++ fixedPaths).Pairwise (Apart o) := by
  have hnodup : (fixedPaths.map lastName).Nodup := by decide
  refine List.pairwise_append.mpr ⟨List.pairwise_map.mpr hdistinct, ?_, ?_⟩
  · refine (List.pairwise_map.mp hnodup).imp_of_mem fun hpath hpath' hne ↦ ?_
    exact apart_of_lastName_ne hlinks (endsInName_of_mem_fixedPaths hpath).1
      (endsInName_of_mem_fixedPaths hpath').1 hne
  · intro path hpath path' hpath'
    obtain ⟨job, hjob, rfl⟩ := List.mem_map.mp hpath
    obtain ⟨name, hname⟩ := hmarkdown job hjob
    obtain ⟨hends, hlast⟩ := endsInName_markdown name
    obtain ⟨hends', hlast'⟩ := endsInName_of_mem_fixedPaths hpath'
    rw [hname]
    refine apart_of_lastName_ne hlinks hends hends' fun heq ↦ hlast' ?_
    rw [← heq, hlast]

/-! ### The edits of a plan -/

variable {r : Request}

theorem pages_of_mapM {jobs : List PageJob} {pages : List Edit}
    (hpages : jobs.mapM PageJob.edit = .ok pages) :
    pages.map Edit.path = jobs.map PageJob.path ∧
      ∀ e ∈ pages, ∃ path text, e = .write path text := by
  induction jobs generalizing pages with
  | nil =>
    rw [List.mapM_nil] at hpages
    obtain rfl : pages = [] := (Except.ok.inj hpages).symm
    exact ⟨rfl, fun e he ↦ absurd he List.not_mem_nil⟩
  | cons job jobs ih =>
    obtain ⟨e, rest, hjob, hrest, rfl⟩ := Except.mapM_cons_eq_ok_iff.mp hpages
    obtain ⟨text, -, rfl⟩ := exists_text_of_edit hjob
    obtain ⟨hpaths, hwrites⟩ := ih hrest
    refine ⟨by rw [List.map_cons, List.map_cons, hpaths]; rfl, fun e he ↦ ?_⟩
    rcases List.mem_cons.mp he with rfl | he
    · exact ⟨job.path, text, rfl⟩
    · exact hwrites e he

/-- The paths of the edits that may rewrite a file. -/
theorem Plan.map_path_filter_mayRewrite (plan : Plan r) :
    (plan.edits.filter Edit.mayRewrite).map Edit.path =
      (pageJobs plan.site).map PageJob.path ++ fixedPaths := by
  obtain ⟨hpaths, hwrites⟩ := pages_of_mapM plan.pages_eq
  have hpages : plan.pages.filter Edit.mayRewrite = plan.pages := by
    refine List.filter_eq_self.mpr fun e he ↦ ?_
    obtain ⟨path, text, rfl⟩ := hwrites e he
    rfl
  have hscaffold : (scaffoldEdits plan.model.workspaceName plan.repository).filter
      Edit.mayRewrite = [] := by
    refine List.filter_eq_nil_iff.mpr fun e he ↦ ?_
    obtain ⟨file, -, rfl⟩ := List.mem_map.mp he
    exact Bool.false_ne_true
  rw [Plan.edits, List.filter_append, List.filter_append, List.filter_append, hpages, hscaffold,
    List.map_append, hpaths]
  rfl

/-- Every edit of a plan but the last one asks for a file. -/
theorem Plan.intent?_of_mem (plan : Plan r) : ∀ e ∈ plan.pages ++ (generatedEdits plan.site ++
    scaffoldEdits plan.model.workspaceName plan.repository), e.intent?.isSome = true := by
  intro e he
  rcases List.mem_append.mp he with hpage | hrest
  · obtain ⟨path, text, rfl⟩ := (pages_of_mapM plan.pages_eq).2 e hpage
    rfl
  · rcases List.mem_append.mp hrest with hgenerated | hscaffold
    · simp only [generatedEdits, List.mem_cons, List.not_mem_nil, or_false] at hgenerated
      rcases hgenerated with rfl | rfl | rfl <;> rfl
    · obtain ⟨file, -, rfl⟩ := List.mem_map.mp hscaffold
      rfl

theorem Plan.edits_eq_concat (plan : Plan r) :
    plan.edits = plan.pages ++ (generatedEdits plan.site ++
      scaffoldEdits plan.model.workspaceName plan.repository) ++ [themeEdit] := by
  rw [Plan.edits, List.append_assoc, List.append_assoc]

/-- The edits of a plan come to rest. -/
theorem Plan.restful (plan : Plan r) (hlinks : o.disk.HasNoLinks)
    (hscaffold : ∀ file ∈ Scaffold.files, ∀ p, o.locate file.1 = .ok p →
      o.disk.find? p ≠ some .dir)
    (hdistinct : (pageJobs plan.site).Pairwise fun a b ↦ Apart o a.path b.path) :
    o.Restful plan.edits where
  once := by
    have hapart := pairwise_paths hlinks (fun _ ↦ exists_markdown_of_mem_pageJobs) hdistinct
    rw [← plan.map_path_filter_mayRewrite] at hapart
    exact List.pairwise_filter.mp (List.pairwise_map.mp hapart)
  patch := by
    intro earlier path line hbegin
    rw [plan.edits_eq_concat] at hbegin
    rcases List.prefix_concat_iff.mp hbegin with heq | hbegin
    · obtain ⟨rfl, hlast⟩ := List.append_inj' heq rfl
      obtain ⟨rfl, rfl⟩ : path = Scaffold.themePath ∧ line = Scaffold.stylesImport :=
        Edit.patch.inj (List.singleton_inj.mp hlast)
      have hasked : Edit.scaffold Scaffold.themePath (Scaffold.fill
          (Scaffold.values plan.model.workspaceName plan.repository) Scaffold.themeFile) ∈
            scaffoldEdits plan.model.workspaceName plan.repository :=
        List.mem_map.mpr ⟨(Scaffold.themePath, Scaffold.themeFile), by simp [Scaffold.files], rfl⟩
      exact ⟨by decide, by decide, _, List.mem_append_right _ (List.mem_append_right _ hasked),
        rfl, rfl⟩
    · have hintent := plan.intent?_of_mem _ (hbegin.subset (List.mem_append_right _
        List.mem_cons_self))
      cases hintent
  scaffold := by
    intro path text p hmem hlocate
    have hfile : ∃ file ∈ Scaffold.files, file.1 = path := by
      simp only [Plan.edits, List.mem_append] at hmem
      rcases hmem with hpage | hgenerated | hfile | htheme
      · obtain ⟨path', text', heq⟩ := (pages_of_mapM plan.pages_eq).2 _ hpage
        cases heq
      · simp [generatedEdits] at hgenerated
      · obtain ⟨file, hfile, heq⟩ := List.mem_map.mp hfile
        exact ⟨file, hfile, (Edit.scaffold.inj heq).1⟩
      · cases List.mem_singleton.mp htheme
    obtain ⟨file, hfile, rfl⟩ := hfile
    exact hscaffold file hfile p hlocate

/-! ### Two runs -/

variable {s s₁ s' : State} {places : List Path}

theorem Plan.runOn_writer (plan : Plan r) (o : Output) : plan.writer.runOn o =
    (carryOut plan.dirs plan.edits >>= fun _ ↦ pure none).runOn (uncounted o) := by
  rw [Plan.writer, ExceptT.runOn_bind, ExceptT.runOn_modify]

/-- A run that has a plan succeeds in an empty output where the edits of the plan fit. -/
theorem Plan.exists_generate (plan : Plan r) (hreport : r.reportPath = none)
    (hempty : s.output.disk = {}) (hfits : s.output.Fits plan.edits places)
    (hdirs : ∀ dir ∈ managedDirs plan.dirs, ∃ base, s.output.locate dir = .ok base ∧
      isTooLong base = false) :
    ∃ s₁, (generate r).runOn s = (.ok none, s₁) := by
  have hfits' : (uncounted s.output).Fits plan.edits places := ⟨hfits.place, hfits.apart⟩
  obtain ⟨gone, o₁, hrun⟩ := exists_carryOut (o := uncounted s.output) hempty hfits' hdirs
  have hwritten : plan.writer.runOn s.output = (.ok none, o₁) := by
    rw [plan.runOn_writer, ExceptT.runOn_bind, hrun]
    rfl
  obtain ⟨s₁, hgenerate, -⟩ := (plan.amountsTo hreport).back rfl hwritten
  exact ⟨s₁, hgenerate⟩

/-- **Repetition.** Suppose that a run succeeds on a tree without links where no scaffold file is a
directory, and that its pages go to places of their own. Then a run that is asked for the same and
begins with the tree that the first one has left succeeds too; it writes no file, deletes none, and
leaves the tree as it is. -/
theorem generate_again (htree : s.output.disk.IsTree) (hlinks : s.output.disk.HasNoLinks)
    (hscaffold : ∀ file ∈ Scaffold.files, ∀ p, s.output.locate file.1 = .ok p →
      s.output.disk.find? p ≠ some .dir)
    (hdistinct : ∀ site, r.site = .ok site → (pageJobs site).Pairwise fun a b ↦
      ∀ p, s.output.locate a.path = .ok p → s.output.locate b.path ≠ .ok p)
    (hrun : (generate r).runOn s = (.ok none, s₁))
    (hroot : s'.output.root = s.output.root) (hdisk : s'.output.disk = s₁.output.disk) :
    ∃ s₂, (generate r).runOn s' = (.ok none, s₂) ∧ s₂.output.disk = s₁.output.disk ∧
      s₂.output.stats.written = 0 ∧ s₂.output.stats.deleted = 0 := by
  obtain ⟨hreport, ⟨plan⟩⟩ := exists_plan hrun
  have hamounts := plan.amountsTo hreport
  obtain ⟨o', hwriter, hfiles₁⟩ := hamounts.forth rfl hrun
  rw [plan.runOn_writer] at hwriter
  obtain ⟨gone, o₁, hfirst, hend⟩ := ExceptT.runOn_bind_eq_ok _ hwriter
  obtain rfl : o₁ = o' := (Prod.mk.inj hend).2
  have hrest : (uncounted s.output).Restful plan.edits :=
    plan.restful hlinks hscaffold (hdistinct plan.site plan.request_site)
  have hroot' : (uncounted s'.output).root = (uncounted s.output).root := hroot
  have hdisk₁ : s₁.output.disk = o₁.disk := congrArg (fun files ↦ files.disk) hfiles₁
  obtain ⟨o₂, hsecond, hsame, hwritten, hdeleted⟩ :=
    carryOut_again (o := uncounted s.output) htree hlinks hrest hfirst hroot' (hdisk.trans hdisk₁)
  have hwriter' : plan.writer.runOn s'.output = (.ok none, o₂) := by
    rw [plan.runOn_writer, ExceptT.runOn_bind, hsecond]
    rfl
  obtain ⟨s₂, hagain, hfiles₂⟩ := hamounts.back rfl hwriter'
  have hfiles : s₂.output.files.disk = o₂.files.disk := by rw [hfiles₂]
  refine ⟨s₂, hagain, ?_, ?_, ?_⟩
  · exact (hfiles.trans hsame).trans hdisk₁.symm
  · exact (congrArg (fun files ↦ files.stats.written) hfiles₂).trans hwritten
  · exact (congrArg (fun files ↦ files.stats.deleted) hfiles₂).trans hdeleted

/-! ### A small site -/

/-- A package with one class. -/
def smallModel : Text :=
  "package: \x7bname: p, libraries: [" ++
    "\x7bname: a, containers: [\x7bname: C, kind: class\x7d]\x7d]\x7d"

def small : Request where
  settings := none
  modelPath := "model.yaml"
  model := .text smallModel

/-- Where the site of the package begins: nothing is there yet. -/
def smallOutput : Output where
  root := ["out"]

/-- The paths of what is written for the package, the three pages first, with the places that they
lead to. -/
def smallPlaces : List (Text × Path) := [
  ("api/index.md", ["api", "index.md"]),
  ("api/a/index.md", ["api", "a", "index.md"]),
  ("api/a/C.md", ["api", "a", "C.md"]),
  (".vitepress/generated/api-sidebar.ts", [".vitepress", "generated", "api-sidebar.ts"]),
  (".vitepress/generated/guide-sidebar.ts", [".vitepress", "generated", "guide-sidebar.ts"]),
  (".vitepress/generated/api-styles.css", [".vitepress", "generated", "api-styles.css"]),
  ("package.json", ["package.json"]),
  (".vitepress/config.ts", [".vitepress", "config.ts"]),
  ("index.md", ["index.md"]),
  ("guide/index.md", ["guide", "index.md"]),
  (".gitignore", [".gitignore"]),
  (".vitepress/theme/index.ts", [".vitepress", "theme", "index.ts"]),
  (".vitepress/theme/custom.css", [".vitepress", "theme", "custom.css"]),
  (".vitepress/theme/components/ApiBreadcrumb.vue",
    [".vitepress", "theme", "components", "ApiBreadcrumb.vue"]),
  (".vitepress/theme/index.ts", [".vitepress", "theme", "index.ts"])]

/-- The managed directories of the package, with the places that they lead to. -/
def smallDirs : List (Text × Path) :=
  [("api", ["api"]), ("topics", ["topics"]), (".vitepress/generated", [".vitepress", "generated"])]

theorem exists_plan_small : ∃ plan : Plan small,
    (pageJobs plan.site).map PageJob.path = (smallPlaces.take 3).map Prod.fst ∧
      plan.edits.map Edit.path = smallPlaces.map Prod.fst ∧
      plan.dirs = smallDirs.map Prod.fst := by
  have hplan : (small.plan?.map fun plan ↦
      ((pageJobs plan.site).map PageJob.path, plan.edits.map Edit.path, plan.dirs)) =
        some ((smallPlaces.take 3).map Prod.fst, smallPlaces.map Prod.fst,
          smallDirs.map Prod.fst) := by
    decide +kernel
  obtain ⟨plan, -, heq⟩ := Option.map_eq_some_iff.mp hplan
  simp only [Prod.mk.injEq] at heq
  exact ⟨plan, heq⟩

theorem locate_smallOutput {x : Text × Path} (hx : x ∈ smallPlaces ++ smallDirs) :
    smallOutput.locate x.1 = .ok x.2 ∧ isTooLong x.2 = false := by
  have hall : (smallPlaces ++ smallDirs).all fun x ↦ !x.1.contains '\x00' &&
      (Path.walk (Path.startOf x.1 smallOutput.root) (Text.splitOn '/' x.1) ==
        smallOutput.root ++ x.2) && x.2 != [] && !isTooLong x.2 := by
    decide +kernel
  have hx := List.all_eq_true.mp hall x hx
  simp only [Bool.and_eq_true, Bool.not_eq_true', beq_iff_eq, bne_iff_ne] at hx
  obtain ⟨⟨⟨hnull, hwalk⟩, hne⟩, hname⟩ := hx
  exact ⟨locate_eq_ok_of_walk (Disk.hasNoLinks_of_all rfl) hnull hwalk hne, hname⟩

theorem fits_small (plan : Plan small)
    (hedits : plan.edits.map Edit.path = smallPlaces.map Prod.fst) :
    smallOutput.Fits plan.edits (smallPlaces.map Prod.snd) where
  place := by
    intro e he
    have hpath : e.path ∈ smallPlaces.map Prod.fst := hedits ▸ List.mem_map_of_mem he
    obtain ⟨x, hx, hpath⟩ := List.mem_map.mp hpath
    exact ⟨x.2, List.mem_map_of_mem hx, hpath ▸ locate_smallOutput (List.mem_append_left _ hx)⟩
  apart := by
    unfold AreApart
    decide +kernel

theorem pairwise_pageJobs_small (plan : Plan small)
    (hpages : (pageJobs plan.site).map PageJob.path = (smallPlaces.take 3).map Prod.fst) :
    (pageJobs plan.site).Pairwise fun a b ↦ Apart smallOutput a.path b.path := by
  have hplaces : (smallPlaces.take 3).Pairwise fun x y ↦ x.2 ≠ y.2 := by decide
  have hlocate : ∀ x ∈ smallPlaces.take 3, smallOutput.locate x.1 = .ok x.2 := fun x hx ↦
    (locate_smallOutput (List.mem_append_left _ (List.mem_of_mem_take hx))).1
  refine List.pairwise_map.mp ?_
  rw [hpages, List.pairwise_map]
  refine hplaces.imp_of_mem fun {x y} hx hy hne p hp hp' ↦ hne ?_
  exact Except.ok.inj ((hlocate x hx).symm.trans (hp.trans (hp'.symm.trans (hlocate y hy))))

/-- The site of the package is made, and making it again changes nothing. -/
theorem generate_again_small : ∃ s₁, (generate small).runOn ⟨smallOutput, [], []⟩ = (.ok none, s₁) ∧
    ∃ s₂, (generate small).runOn ⟨{ smallOutput with disk := s₁.output.disk }, [], []⟩ =
        (.ok none, s₂) ∧
      s₂.output.disk = s₁.output.disk ∧ s₂.output.stats.written = 0 ∧
      s₂.output.stats.deleted = 0 := by
  obtain ⟨plan, hpages, hedits, hdirs⟩ := exists_plan_small
  obtain ⟨s₁, hrun⟩ : ∃ s₁, (generate small).runOn ⟨smallOutput, [], []⟩ = (.ok none, s₁) := by
    refine plan.exists_generate rfl rfl (fits_small plan hedits) fun dir hdir ↦ ?_
    have hsame : managedDirs (smallDirs.map Prod.fst) = smallDirs.map Prod.fst := by decide
    rw [hdirs, hsame] at hdir
    obtain ⟨x, hx, rfl⟩ := List.mem_map.mp hdir
    exact ⟨x.2, locate_smallOutput (List.mem_append_right _ hx)⟩
  refine ⟨s₁, hrun, generate_again ?_ (Disk.hasNoLinks_of_all rfl) ?_ ?_ hrun rfl rfl⟩
  · exact (by decide : Disk.IsTree {})
  · exact fun _ _ _ _ ↦ nofun
  · intro site hsite
    obtain rfl : plan.site = site := Except.ok.inj (plan.request_site.symm.trans hsite)
    exact pairwise_pageJobs_small plan hpages

end ApiSite.Run
