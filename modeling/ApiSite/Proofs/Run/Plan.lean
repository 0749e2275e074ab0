import ApiSite.Proofs.Run.Writing

/-!
# The plan of a run

All that a run writes follows from what it is asked for: its settings, its model, the site that
these make, and the text of each page. A `Plan` gathers this, together with the proof that it is
what the run comes to. A run that succeeds has a plan (`exists_plan`), and a run that has a plan
amounts to carrying out the edits of the plan (`Plan.amountsTo`), in whatever state it begins.
-/

set_option autoImplicit false

namespace ApiSite.Run

open Model Output

variable {s s' : State} {r : Request}

/-! ### Loading -/

/-- The settings of the file that is named, or else the default ones. -/
def Request.baseSettings (r : Request) : Except Settings.Error Settings :=
  match r.settings with
  | some (path, source) => Settings.ofSource path source
  | none => (Settings.validate .default).map fun _ ↦ .default

/-- The settings of a run. -/
def Request.ownSettings (r : Request) : Except Settings.Error Settings := do
  let settings ← r.baseSettings
  if r.repositoryUrl.isEmpty then return settings
  settings.withRepository r.repositoryUrl

/-- The model of a run. -/
def Request.ownModel (r : Request) : Except Model.Error Model :=
  (Model.ofSource r.modelPath r.model).1

/-- Where the entities of a model are, as settings say. -/
def ownLocation (settings : Settings) (model : Model) : Except Settings.Error Location :=
  settings.libraryRules.map fun rules ↦ (Location.build rules model.entities).1

/-- The site of a run. -/
def Request.site (r : Request) : Except Error Site := do
  let settings ← r.ownSettings.mapError .settings
  let model ← r.ownModel.mapError .model
  let location ← (ownLocation settings model).mapError .settings
  (Site.of settings model location).mapError .settings

/-- The address of the repository, as the scaffold names it. -/
def repositoryAddress (settings : Settings) (model : Model) : Except Settings.Error Text := do
  let url ← settings.output "repository_url"
  if !url.isTrue then return (model.packages.head?.map (·.repository)).getD []
  Settings.textOf url

theorem answers_loadSettings (r : Request) :
    Answers (loadSettings r) (r.ownSettings.mapError .settings) := by
  have hnext : ∀ settings : Settings, Answers
      (if r.repositoryUrl.isEmpty then pure settings
        else check .settings (settings.withRepository r.repositoryUrl))
      ((if r.repositoryUrl.isEmpty then pure settings
        else settings.withRepository r.repositoryUrl : Except Settings.Error Settings).mapError
          .settings) := by
    intro settings
    split
    · exact answers_pure settings
    · exact answers_check _ _
  refine Answers.congr ((answers_check Error.settings r.baseSettings).bind hnext) ?_
  unfold Request.ownSettings
  cases r.baseSettings <;> rfl

theorem answers_loadModel (r : Request) :
    Answers (loadModel r) (r.ownModel.mapError .model) := by
  unfold loadModel Request.ownModel
  rcases Model.ofSource r.modelPath r.model with ⟨result, warnings⟩
  have hloaded := (answers_logAll ((warnings.map Model.Warning.message).map (⟨.warning, ·⟩))).bind
    fun _ ↦ (answers_check Error.model result).bind fun model ↦
      (answers_logAll [⟨.info, modelLine model⟩]).bind fun _ ↦ answers_pure model
  refine hloaded.congr ?_
  cases result <;> rfl

theorem answers_locate (settings : Settings) (model : Model) :
    Answers (locate settings model) ((ownLocation settings model).mapError .settings) := by
  have hnext : ∀ rules, Answers (do
      let built := Location.build rules model.entities
      modify fun s ↦
        let stats := s.output.stats
        { s with output := { s.output with
            stats := { stats with collisions := stats.collisions + built.2.length } } }
      warn (built.2.map Location.Warning.message)
      return built.1) (.ok (Location.build rules model.entities).1) := by
    intro rules
    refine (answers_modify ?_).bind_ok ?_
    · exact fun _ ↦ rfl
    · exact (answers_logAll _).bind_ok (answers_pure _)
  refine Answers.congr ((answers_check Error.settings settings.libraryRules).bind hnext) ?_
  unfold ownLocation
  cases settings.libraryRules <;> rfl

theorem answers_repositoryOf (settings : Settings) (model : Model) :
    Answers (repositoryOf settings model)
      ((repositoryAddress settings model).mapError .settings) := by
  have hnext : ∀ url : Value, Answers
      (if !url.isTrue then pure ((model.packages.head?.map (·.repository)).getD [])
        else check .settings (Settings.textOf url))
      ((if !url.isTrue then pure ((model.packages.head?.map (·.repository)).getD [])
        else Settings.textOf url : Except Settings.Error Text).mapError .settings) := by
    intro url
    split
    · exact answers_pure _
    · exact answers_check _ _
  refine Answers.congr
    ((answers_check Error.settings (settings.output "repository_url")).bind hnext) ?_
  unfold repositoryAddress
  cases settings.output "repository_url" <;> rfl

/-! ### Edits -/

/-- The edit that a page is written with. -/
def PageJob.edit (job : PageJob) : Except Doc.Error Edit :=
  (job.render.runOn {}).1.map (.write job.path)

/-- The files that belong to no entity. -/
def generatedEdits (site : Site) : List Edit :=
  [.write Navigation.path (Navigation.render site.location site.model.localPackages),
    .write Navigation.guidePath Navigation.guide, .write Navigation.stylesPath Navigation.styles]

/-- The files that a new site starts with. -/
def scaffoldEdits (packageName repositoryUrl : Text) : List Edit :=
  Scaffold.files.map fun (path, template) ↦
    .scaffold path (Scaffold.fill (Scaffold.values packageName repositoryUrl) template)

/-- The theme is made to have the styles of signatures. -/
def themeEdit : Edit := .patch Scaffold.themePath Scaffold.stylesImport

/-- What a run comes to that is asked for something. -/
structure Plan (r : Request) where
  settings : Settings
  settings_eq : r.ownSettings = .ok settings
  model : Model
  model_eq : r.ownModel = .ok model
  location : Location
  location_eq : ownLocation settings model = .ok location
  site : Site
  site_eq : Site.of settings model location = .ok site
  managed : Value
  managed_eq : settings.output "managed_dirs" = .ok managed
  dirs : List Text
  dirs_eq : Settings.managedDirs managed = .ok dirs
  pages : List Edit
  pages_eq : (pageJobs site).mapM PageJob.edit = .ok pages
  repository : Text
  repository_eq : repositoryAddress settings model = .ok repository

/-- The result of a step that can fail, with the proof that it is the result. -/
def found {ε α : Type} : (result : Except ε α) → Option { a // result = .ok a }
  | .ok a => some ⟨a, rfl⟩
  | .error _ => none

/-- The plan of a run, where there is one. -/
def Request.plan? (r : Request) : Option (Plan r) := do
  let ⟨settings, settings_eq⟩ ← found r.ownSettings
  let ⟨model, model_eq⟩ ← found r.ownModel
  let ⟨location, location_eq⟩ ← found (ownLocation settings model)
  let ⟨site, site_eq⟩ ← found (Site.of settings model location)
  let ⟨managed, managed_eq⟩ ← found (settings.output "managed_dirs")
  let ⟨dirs, dirs_eq⟩ ← found (Settings.managedDirs managed)
  let ⟨pages, pages_eq⟩ ← found ((pageJobs site).mapM PageJob.edit)
  let ⟨repository, repository_eq⟩ ← found (repositoryAddress settings model)
  return {
    settings, settings_eq, model, model_eq, location, location_eq, site, site_eq, managed,
    managed_eq, dirs, dirs_eq, pages, pages_eq, repository, repository_eq }

namespace Plan

/-- All edits, in their order. -/
def edits (plan : Plan r) : List Edit :=
  plan.pages ++ (generatedEdits plan.site ++
    (scaffoldEdits plan.model.workspaceName plan.repository ++ [themeEdit]))

theorem request_site (plan : Plan r) : r.site = .ok plan.site := by
  unfold Request.site
  rw [plan.settings_eq, plan.model_eq]
  simp only [Except.mapError, bind, Except.bind]
  rw [plan.location_eq]
  simp only
  rw [plan.site_eq]

end Plan

/-! ### Pages -/

variable {jobs : List PageJob} {pages : List Edit} {total done : Nat}

theorem exists_text_of_edit {job : PageJob} {e : Edit} (h : job.edit = .ok e) :
    ∃ text, (job.render.runOn {}).1 = .ok text ∧ e = .write job.path text := by
  unfold PageJob.edit at h
  cases htext : (job.render.runOn {}).1 with
  | error error =>
    rw [htext] at h
    cases h
  | ok text =>
    rw [htext] at h
    exact ⟨text, rfl, (Except.ok.inj h).symm⟩

/-- Rendering and writing pages amounts to their edits. -/
theorem amountsTo_writePagesFrom (hsteady : ∀ job ∈ jobs, Doc.IsSteady job.render)
    (hpages : jobs.mapM PageJob.edit = .ok pages) :
    AmountsTo (writePagesFrom total done jobs) (performAll pages) := by
  induction jobs generalizing done pages with
  | nil =>
    rw [List.mapM_nil] at hpages
    obtain rfl : pages = [] := (Except.ok.inj hpages).symm
    exact (answers_pure ()).amountsTo
  | cons job jobs ih =>
    obtain ⟨e, rest, hjob, hrest, rfl⟩ := Except.mapM_cons_eq_ok_iff.mp hpages
    obtain ⟨text, htext, rfl⟩ := exists_text_of_edit hjob
    have hrender := answers_rendering (hsteady job List.mem_cons_self)
    rw [htext] at hrender
    rw [writePagesFrom, performAll_cons]
    refine hrender.bind_amountsTo ?_
    refine (amountsTo_writing (Edit.write job.path text).isFiling_perform).bind fun _ ↦ ?_
    have hmore : AmountsTo (writePagesFrom total (done + 1) jobs) (performAll rest) :=
      ih (fun job' hjob' ↦ hsteady job' (List.mem_cons_of_mem _ hjob')) hrest
    simp only
    split
    · exact (answers_print _).bind_amountsTo hmore
    · exact hmore

/-- Where all pages are written, each of them has been rendered. -/
theorem exists_pages (hsteady : ∀ job ∈ jobs, Doc.IsSteady job.render)
    (hrun : (writePagesFrom total done jobs).runOn s = (.ok (), s')) :
    ∃ pages, jobs.mapM PageJob.edit = .ok pages := by
  induction jobs generalizing done s with
  | nil => exact ⟨[], rfl⟩
  | cons job jobs ih =>
    rw [writePagesFrom] at hrun
    obtain ⟨text, s₁, hrender, hrun⟩ := ExceptT.runOn_bind_eq_ok s hrun
    obtain ⟨_, s₂, -, hrun⟩ := ExceptT.runOn_bind_eq_ok s₁ hrun
    have hmore : ∃ s₃, (writePagesFrom total (done + 1) jobs).runOn s₃ = (.ok (), s') := by
      simp only at hrun
      split at hrun
      · obtain ⟨_, s₃, -, hrun⟩ := ExceptT.runOn_bind_eq_ok s₂ hrun
        exact ⟨s₃, hrun⟩
      · exact ⟨s₂, hrun⟩
    obtain ⟨s₃, hmore⟩ := hmore
    obtain ⟨rest, hrest⟩ := ih (fun job' hjob' ↦ hsteady job' (List.mem_cons_of_mem _ hjob')) hmore
    have htext := eq_ok_of_mapError
      ((answers_rendering (hsteady job List.mem_cons_self)).of_eq_ok hrender).1
    exact ⟨.write job.path text :: rest,
      Except.mapM_cons_eq_ok_iff.mpr ⟨_, rest, by rw [PageJob.edit, htext]; rfl, hrest, rfl⟩⟩

theorem amountsTo_writeGenerated (site : Site) :
    AmountsTo (writeGenerated site) (performAll (generatedEdits site)) := by
  rw [generatedEdits, performAll_cons, performAll_cons, performAll_cons]
  exact (amountsTo_writing (Edit.write _ _).isFiling_perform).bind fun _ ↦
    (amountsTo_writing (Edit.write _ _).isFiling_perform).bind fun _ ↦
      (amountsTo_writing (Edit.write _ _).isFiling_perform).bind fun _ ↦
        (answers_pure ()).amountsTo

theorem scaffold_eq (packageName repositoryUrl : Text) :
    (do let _ ← Output.scaffold packageName repositoryUrl) =
      performAll (scaffoldEdits packageName repositoryUrl ++ [themeEdit]) := by
  simp [performAll, scaffoldEdits, themeEdit, Output.scaffold, List.mapM_append, List.mapM_map]
  rfl

theorem isFiling_scaffold (packageName repositoryUrl : Text) :
    IsFiling (Output.scaffold packageName repositoryUrl) :=
  (isFiling_mapM (fun (path, _) ↦ (Edit.scaffold path _).isFiling_perform) _).bind fun _ ↦
    (Edit.patch _ _).isFiling_perform.bind fun _ ↦ isFiling_pure _

theorem amountsTo_writeScaffold {settings : Settings} {model : Model} {repository : Text}
    (hrepository : repositoryAddress settings model = .ok repository) :
    AmountsTo (writeScaffold settings model)
      (performAll (scaffoldEdits model.workspaceName repository ++ [themeEdit])) := by
  have haddress := answers_repositoryOf settings model
  rw [hrepository] at haddress
  rw [← scaffold_eq]
  refine haddress.bind_amountsTo ((amountsTo_writing (isFiling_scaffold _ _)).bind fun created ↦ ?_)
  split
  · exact (answers_print _).amountsTo
  · exact (answers_pure ()).amountsTo

theorem answers_logReferences : Answers logReferences (.ok ()) := by
  refine answers_get_bind fun s ↦ (answers_logAll _).bind_ok ?_
  exact (answers_forIn (fun _ ↦ answers_logAll _) _).bind_ok (answers_pure ())

/-! ### The whole run -/

theorem amountsTo_writePages (plan : Plan r) :
    AmountsTo (writePages plan.site)
      (performAll plan.pages >>= fun _ ↦ pure (pageJobs plan.site).length) := by
  refine (answers_print _).bind_amountsTo ?_
  refine (amountsTo_writePagesFrom (fun _ ↦ isSteady_of_mem_pageJobs) plan.pages_eq).bind ?_
  exact fun _ ↦ (answers_pure _).amountsTo

/-- Writing the site of a plan amounts to carrying out its edits. -/
theorem amountsTo_writeSite (plan : Plan r) :
    AmountsTo (writeSite plan.settings plan.model plan.location)
      (do let _ ← carryOut plan.dirs plan.edits) := by
  have hwriter : AmountsTo (writeSite plan.settings plan.model plan.location) (do
      start []
      start plan.dirs
      let _ ← (do performAll plan.pages; return (pageJobs plan.site).length)
      performAll (generatedEdits plan.site)
      performAll (scaffoldEdits plan.model.workspaceName plan.repository ++ [themeEdit])
      finalize
      let _ ← deleteStale) := by
    refine (answers_check_of_eq_ok .settings plan.site_eq).bind_amountsTo ?_
    refine (answers_check_of_eq_ok .settings plan.managed_eq).bind_amountsTo ?_
    refine (amountsTo_writing (isFiling_start [])).bind fun _ ↦ ?_
    refine (answers_check_of_eq_ok .settings plan.dirs_eq).bind_amountsTo ?_
    refine (amountsTo_writing (isFiling_start plan.dirs)).bind fun _ ↦ ?_
    refine (amountsTo_writePages plan).bind fun _ ↦ ?_
    refine (amountsTo_writeGenerated plan.site).bind fun _ ↦ ?_
    refine (amountsTo_writeScaffold plan.repository_eq).bind fun _ ↦ ?_
    refine (amountsTo_writing isFiling_finalize).bind fun _ ↦ ?_
    refine (amountsTo_writing isFiling_deleteStale).bind fun _ ↦ ?_
    refine answers_logReferences.bind_amountsTo ?_
    exact (answers_get_bind fun s ↦ answers_print _).amountsTo
  refine hwriter.congr fun o ↦ ?_
  rw [runOn_start_start]
  simp [carryOut, Plan.edits, performAll_append]

/-- An output where nothing has been counted yet. -/
def uncounted (o : Output) : Output := { o with stats := {} }

/-- What a run that has a plan does with its output. -/
def Plan.writer (plan : Plan r) : Writing (Option Report) := do
  modify uncounted
  let _ ← carryOut plan.dirs plan.edits
  return none

/-- A run that has a plan amounts to carrying it out. -/
theorem Plan.amountsTo (plan : Plan r) (hreport : r.reportPath = none) :
    AmountsTo (generate r) plan.writer := by
  have hsettings : Answers (loadSettings r) (.ok plan.settings) :=
    (answers_loadSettings r).congr (by rw [plan.settings_eq]; rfl)
  have hmodel : Answers (loadModel r) (.ok plan.model) :=
    (answers_loadModel r).congr (by rw [plan.model_eq]; rfl)
  have hlocation : Answers (locate plan.settings plan.model) (.ok plan.location) :=
    (answers_locate plan.settings plan.model).congr (by rw [plan.location_eq]; rfl)
  have hreset : ∀ (s : State) (o : Output), s.output.files = o.files →
      (uncounted s.output).files = (uncounted o).files := by
    intro s o hfiles
    have hsame : (uncounted s.output.files).files = (uncounted o.files).files := by rw [hfiles]
    exact hsame
  have hwrite : AmountsTo (do
      writeSite plan.settings plan.model plan.location
      return (none : Option Report)) (do
      let _ ← carryOut plan.dirs plan.edits
      return none) := by
    refine AmountsTo.congr ((amountsTo_writeSite plan).bind fun _ ↦
      (answers_pure none).amountsTo) fun o ↦ ?_
    simp
  unfold generate Plan.writer
  refine (amountsTo_modify hreset).bind fun _ ↦ ?_
  refine hsettings.bind_amountsTo ?_
  refine hmodel.bind_amountsTo ?_
  refine hlocation.bind_amountsTo ?_
  rw [hreport]
  exact hwrite

/-- A run that makes a site has a plan. -/
theorem exists_plan (hrun : (generate r).runOn s = (.ok none, s')) :
    r.reportPath = none ∧ Nonempty (Plan r) := by
  unfold generate at hrun
  obtain ⟨_, s₁, -, hrun⟩ := ExceptT.runOn_bind_eq_ok s hrun
  obtain ⟨settings, s₂, hload, hrun⟩ := ExceptT.runOn_bind_eq_ok s₁ hrun
  have hsettings := eq_ok_of_mapError ((answers_loadSettings r).of_eq_ok hload).1
  obtain ⟨model, s₃, hload, hrun⟩ := ExceptT.runOn_bind_eq_ok s₂ hrun
  have hmodel := eq_ok_of_mapError ((answers_loadModel r).of_eq_ok hload).1
  obtain ⟨location, s₄, hload, hrun⟩ := ExceptT.runOn_bind_eq_ok s₃ hrun
  have hlocation := eq_ok_of_mapError ((answers_locate settings model).of_eq_ok hload).1
  split at hrun
  · -- A report is an answer of its own.
    obtain ⟨report, s₅, -, hrun⟩ := ExceptT.runOn_bind_eq_ok s₄ hrun
    obtain ⟨_, s₆, -, hrun⟩ := ExceptT.runOn_bind_eq_ok s₅ hrun
    cases hrun
  · next hreport =>
    obtain ⟨_, s₅, hrun, -⟩ := ExceptT.runOn_bind_eq_ok s₄ hrun
    unfold writeSite at hrun
    obtain ⟨site, s₆, hsite, hrun⟩ := ExceptT.runOn_bind_eq_ok s₄ hrun
    obtain ⟨managed, s₇, hmanaged, hrun⟩ := ExceptT.runOn_bind_eq_ok s₆ hrun
    obtain ⟨_, s₈, -, hrun⟩ := ExceptT.runOn_bind_eq_ok s₇ hrun
    obtain ⟨dirs, s₉, hdirs, hrun⟩ := ExceptT.runOn_bind_eq_ok s₈ hrun
    obtain ⟨_, t₁, -, hrun⟩ := ExceptT.runOn_bind_eq_ok s₉ hrun
    obtain ⟨_, t₂, hpages, hrun⟩ := ExceptT.runOn_bind_eq_ok t₁ hrun
    obtain ⟨_, t₃, -, hrun⟩ := ExceptT.runOn_bind_eq_ok t₂ hrun
    obtain ⟨_, t₄, hscaffold, -⟩ := ExceptT.runOn_bind_eq_ok t₃ hrun
    obtain ⟨_, t₅, -, hpages⟩ := ExceptT.runOn_bind_eq_ok t₁ hpages
    obtain ⟨_, t₆, hpages, -⟩ := ExceptT.runOn_bind_eq_ok t₅ hpages
    obtain ⟨pages, hpages⟩ := exists_pages (fun _ ↦ isSteady_of_mem_pageJobs) hpages
    obtain ⟨repository, t₇, hrepository, -⟩ := ExceptT.runOn_bind_eq_ok t₃ hscaffold
    have hrepository :=
      eq_ok_of_mapError ((answers_repositoryOf settings model).of_eq_ok hrepository).1
    exact ⟨hreport, ⟨{
      settings := settings
      settings_eq := hsettings
      model := model
      model_eq := hmodel
      location := location
      location_eq := hlocation
      site := site
      site_eq := eq_ok_of_check hsite
      managed := managed
      managed_eq := eq_ok_of_check hmanaged
      dirs := dirs
      dirs_eq := eq_ok_of_check hdirs
      pages := pages
      pages_eq := hpages
      repository := repository
      repository_eq := hrepository }⟩⟩

end ApiSite.Run
