import ApiSite.Proofs.Running
import ApiSite.Run.Pages

/-!
# Rendering does not look back

Rendering counts references and removals, but it never reads what has been counted. So a page has
the same text whenever it is rendered (`IsSteady`): on every page of a site
(`isSteady_of_mem_pageJobs`) rendering has one answer, and it leaves the counts of files alone.

Each function that renders is put together from steady steps, and what is put together from steady
steps is steady (`IsSteady.bind`, `IsSteady.mapM`).
-/

set_option autoImplicit false

namespace ApiSite

open Model

namespace Doc

/-- A step that has one answer whatever has been counted before, and counts no files. -/
structure IsSteady {α : Type} (step : Rendering α) : Prop where
  answer : ∀ p q, (step.runOn p).1 = (step.runOn q).1
  written : ∀ p, (step.runOn p).2.stats.written = p.stats.written
  deleted : ∀ p, (step.runOn p).2.stats.deleted = p.stats.deleted

variable {α β : Type} {site : Site} {e : Entity}

/-! ### Steps put together -/

theorem isSteady_pure (a : α) : IsSteady (pure a : Rendering α) :=
  ⟨fun _ _ ↦ rfl, fun _ ↦ rfl, fun _ ↦ rfl⟩

theorem isSteady_throw (error : Error) : IsSteady (throw error : Rendering α) :=
  ⟨fun _ _ ↦ rfl, fun _ ↦ rfl, fun _ ↦ rfl⟩

theorem isSteady_liftM (result : Except Error α) : IsSteady (liftM result : Rendering α) := by
  cases result with
  | ok a => exact isSteady_pure a
  | error error => exact isSteady_throw error

theorem isSteady_modify {f : Progress → Progress}
    (hwritten : ∀ p, (f p).stats.written = p.stats.written)
    (hdeleted : ∀ p, (f p).stats.deleted = p.stats.deleted) :
    IsSteady (modify f : Rendering PUnit) :=
  ⟨fun _ _ ↦ rfl, hwritten, hdeleted⟩

/-- One steady step after another. -/
theorem IsSteady.bind {step : Rendering α} {next : α → Rendering β} (hstep : IsSteady step)
    (hnext : ∀ a, IsSteady (next a)) : IsSteady (step >>= next) := by
  have hrun : ∀ p, ((step >>= next).runOn p).1 = (match (step.runOn p).1 with
      | .ok a => ((next a).runOn (step.runOn p).2).1
      | .error error => .error error) := by
    intro p
    rw [ExceptT.runOn_bind]
    rcases step.runOn p with ⟨error | a, s⟩ <;> rfl
  refine ⟨fun p q ↦ ?_, fun p ↦ ?_, fun p ↦ ?_⟩
  · rw [hrun, hrun, hstep.answer p q]
    rcases (step.runOn q).1 with error | a
    · rfl
    · exact (hnext a).answer _ _
  · rw [← hstep.written p, ExceptT.runOn_bind]
    rcases step.runOn p with ⟨error | a, s⟩
    · rfl
    · exact (hnext a).written s
  · rw [← hstep.deleted p, ExceptT.runOn_bind]
    rcases step.runOn p with ⟨error | a, s⟩
    · rfl
    · exact (hnext a).deleted s

theorem IsSteady.bind_pure {step : Rendering α} (hstep : IsSteady step) (f : α → β) :
    IsSteady (step >>= fun a ↦ pure (f a)) :=
  hstep.bind fun a ↦ isSteady_pure (f a)

/-- A step that is taken unless there is an error. -/
theorem isSteady_unless {isError : Prop} [Decidable isError] {error : Error}
    {next : PUnit → Rendering β} (hnext : ∀ u, IsSteady (next u)) :
    IsSteady (if isError then throw error >>= next else next ()) := by
  split
  · exact (isSteady_throw error).bind hnext
  · exact hnext ()

/-- A steady step for each item of a list. -/
theorem IsSteady.mapM {step : α → Rendering β} (hstep : ∀ a, IsSteady (step a)) (l : List α) :
    IsSteady (l.mapM step) := by
  induction l with
  | nil =>
    rw [List.mapM_nil]
    exact isSteady_pure []
  | cons a l ih =>
    rw [List.mapM_cons]
    exact (hstep a).bind fun b ↦ ih.bind_pure (b :: ·)

/-- A steady step for each item of a list, in a loop. -/
theorem IsSteady.forIn {step : α → Rendering PUnit} (hstep : ∀ a, IsSteady (step a)) (l : List α) :
    IsSteady (forIn l PUnit.unit fun a _ ↦ do
      step a
      pure (ForInStep.yield PUnit.unit) : Rendering PUnit) := by
  induction l with
  | nil => exact isSteady_pure _
  | cons a l ih =>
    rw [List.forIn_cons]
    refine IsSteady.bind ((hstep a).bind_pure fun _ ↦ _) fun continued ↦ ?_
    cases continued with
    | done => exact isSteady_pure _
    | yield => exact ih

/-! ### Documentation -/

theorem isSteady_recordReference (loc : Location) (e : Entity) (text : Text) :
    IsSteady (recordReference loc e text) := by
  unfold recordReference
  split
  · exact isSteady_pure ()
  · have hcount : ∀ (p : Progress) (name : Text) (isResolved : Bool),
        (p.record name isResolved).stats.written = p.stats.written ∧
          (p.record name isResolved).stats.deleted = p.stats.deleted := by
      intro p name isResolved
      cases isResolved <;> exact ⟨rfl, rfl⟩
    refine (isSteady_modify (fun p ↦ (hcount p _ _).1) fun p ↦ (hcount p _ _).2).bind fun _ ↦ ?_
    split
    · exact isSteady_pure ()
    · exact isSteady_throw _

theorem isSteady_render (site : Site) (e : Entity) : IsSteady (render site e) := by
  unfold render
  split
  · exact isSteady_pure []
  · refine IsSteady.bind (IsSteady.forIn (isSteady_recordReference site.location e) _) fun _ ↦ ?_
    -- How a document is written and finished does not matter here.
    generalize parse site e = document
    generalize Markup.Writer.write site.style document.root document.rawHtml = written
    refine isSteady_unless fun _ ↦ ?_
    split
    · exact isSteady_throw _
    · exact isSteady_throw _
    · next text =>
      generalize finish site text = finished
      obtain ⟨text, removals⟩ := finished
      refine IsSteady.bind_pure (isSteady_modify (fun _ ↦ ?_) fun _ ↦ ?_) _
      · rfl
      · rfl

theorem isSteady_renderLine (site : Site) (e : Entity) : IsSteady (renderLine site e) :=
  (isSteady_render site e).bind_pure _

end Doc

namespace Page

open Doc

variable (site : Site) (e : Entity)

/-! ### Overviews -/

theorem isSteady_nameAndDescription : IsSteady (nameAndDescription site e) := by
  refine (isSteady_renderLine site e).bind fun line ↦ ?_
  split
  · exact isSteady_pure _
  · exact isSteady_pure _

theorem isSteady_groupTable (g : Group) : IsSteady (groupTable site g) := by
  refine IsSteady.bind (IsSteady.mapM (fun e ↦ ?_) _) fun rows ↦ ?_
  · exact (isSteady_nameAndDescription site e).bind_pure _
  · split
    · exact isSteady_pure _
    · exact isSteady_pure _

theorem isSteady_overview (entities : List Entity) : IsSteady (overview site entities) := by
  refine IsSteady.bind_pure (IsSteady.mapM (fun g ↦ ?_) _) _
  exact (isSteady_groupTable site g).bind_pure _

theorem isSteady_library : IsSteady (library site e) :=
  (isSteady_render site e).bind fun _ ↦ (isSteady_overview site _).bind_pure _

/-! ### Packages and topics -/

theorem isSteady_librariesTable (p : Package) : IsSteady (librariesTable site e p) := by
  refine IsSteady.bind (IsSteady.mapM (fun l ↦ ?_) _) fun rows ↦ ?_
  · exact (isSteady_renderLine site l).bind_pure _
  · split
    · exact isSteady_pure _
    · exact isSteady_pure _

theorem isSteady_package (p : Package) : IsSteady (package site e p) :=
  (isSteady_librariesTable site e p).bind_pure _

theorem isSteady_workspacePart : IsSteady (workspacePart site e) := by
  unfold workspacePart
  split
  · exact (isSteady_librariesTable site e _).bind_pure _
  · exact isSteady_pure _

theorem isSteady_workspace : IsSteady (workspace site) :=
  (IsSteady.mapM (isSteady_workspacePart site) _).bind_pure _

theorem isSteady_topic (t : Topic) : IsSteady (topic site t) :=
  (isSteady_overview site _).bind_pure _

/-! ### Declarations -/

theorem isSteady_memberDoc (anchor : Text) : IsSteady (memberDoc site e anchor) :=
  (isSteady_render site e).bind_pure _

theorem isSteady_enumValue (anchor : Text) : IsSteady (enumValue site e anchor) :=
  (isSteady_memberDoc site e anchor).bind_pure _

theorem isSteady_member (m : Member) (s : Section) (anchor : Text) :
    IsSteady (member site e m s anchor) :=
  (isSteady_memberDoc site e anchor).bind fun _ ↦ (isSteady_liftM _).bind_pure _

theorem isSteady_sectionMember (s : Section) (anchor : Text) :
    IsSteady (sectionMember site s e anchor) := by
  unfold sectionMember
  split
  · exact isSteady_enumValue site e anchor
  · exact isSteady_member site e _ _ anchor
  · exact isSteady_pure _

theorem isSteady_members (used : List Text) : IsSteady (members site e used) := by
  refine IsSteady.bind_pure (IsSteady.mapM (fun (s, members) ↦ ?_) _) _
  exact (IsSteady.mapM (fun (m, anchor) ↦ isSteady_sectionMember site m s anchor) _).bind_pure _

theorem isSteady_container (c : Container) : IsSteady (container site e c) := by
  unfold container
  refine IsSteady.bind ?_ fun threshold ↦ (isSteady_liftM _).bind fun outline ↦
    (isSteady_render site e).bind fun doc ↦ (isSteady_members site e _).bind_pure _
  cases site.outlineThreshold with
  | none => exact isSteady_throw _
  | some threshold => exact isSteady_pure threshold

theorem isSteady_topLevel (t : TopLevel) : IsSteady (topLevel site e t) :=
  (isSteady_render site e).bind fun _ ↦ (isSteady_liftM _).bind_pure _

/-- The page of an entity of any kind is steady. -/
theorem isSteady_of_entity? {render : Rendering Text} (h : entity? site e = some render) :
    IsSteady render := by
  unfold entity? at h
  split at h
  · exact Option.some.inj h ▸ isSteady_package site e _
  · exact Option.some.inj h ▸ isSteady_topic site _
  · exact Option.some.inj h ▸ isSteady_library site e
  · exact Option.some.inj h ▸ isSteady_container site e _
  · exact Option.some.inj h ▸ isSteady_topLevel site e _
  · cases h

end Page

namespace Run

variable {site : Site} {job : PageJob}

/-! ### The pages of a site -/

/-- Every page is the one that stands above all others, or that of an entity. -/
theorem eq_rootJob_or_exists_entity (h : job ∈ pageJobs site) :
    job = rootJob site ∨ ∃ e, entityJob? site e = some job := by
  rcases List.mem_cons.mp h with hroot | hpackage
  · exact Or.inl hroot
  · right
    obtain ⟨package, -, hjob⟩ := List.mem_flatMap.mp hpackage
    rcases List.mem_append.mp hjob with hlibrary | htopic
    · obtain ⟨library, -, hjob⟩ := List.mem_flatMap.mp hlibrary
      unfold libraryJobs at hjob
      split at hjob
      · exact absurd hjob List.not_mem_nil
      · next own hown =>
        rcases List.mem_cons.mp hjob with rfl | hinside
        · exact ⟨library, hown⟩
        · obtain ⟨e, -, he⟩ := List.mem_filterMap.mp hinside
          exact ⟨e, he⟩
    · obtain ⟨e, -, he⟩ := List.mem_filterMap.mp htopic
      exact ⟨e, he⟩

theorem exists_of_entityJob? {e : Entity} (h : entityJob? site e = some job) :
    site.location.filePath? e = some job.path ∧ Page.entity? site e = some job.render := by
  obtain ⟨path, hpath, h⟩ := Option.bind_eq_some_iff.mp h
  obtain ⟨render, hrender, h⟩ := Option.bind_eq_some_iff.mp h
  obtain rfl := Option.some.inj h
  exact ⟨hpath, hrender⟩

/-- Every page is steady. -/
theorem isSteady_of_mem_pageJobs (h : job ∈ pageJobs site) : Doc.IsSteady job.render := by
  rcases eq_rootJob_or_exists_entity h with rfl | ⟨e, he⟩
  · unfold rootJob
    simp only
    split
    · exact Page.isSteady_workspace site
    · split
      · exact Page.isSteady_package site _ _
      · exact Doc.isSteady_pure []
  · exact Page.isSteady_of_entity? site e (exists_of_entityJob? he).2

theorem exists_markdown_of_filePath? {loc : Location} {e : Entity} {path : Text}
    (h : loc.filePath? e = some path) : ∃ name, path = name ++ ".md".toList := by
  unfold Location.filePath? at h
  split at h
  · exact ⟨"api/index".toList, (Option.some.inj h).symm⟩
  · exact ⟨_, (Option.some.inj h).symm⟩
  · split at h
    · cases h
    · obtain ⟨dir, -, rfl⟩ := Option.map_eq_some_iff.mp h
      exact ⟨"api/".toList ++ loc.dirName e ++ "/index".toList, by simp⟩
  · obtain ⟨file, -, rfl⟩ := Option.map_eq_some_iff.mp h
    exact ⟨file, rfl⟩
  · obtain ⟨file, -, rfl⟩ := Option.map_eq_some_iff.mp h
    exact ⟨file, rfl⟩
  · cases h

/-- Every page is a file in Markdown. -/
theorem exists_markdown_of_mem_pageJobs (h : job ∈ pageJobs site) :
    ∃ name, job.path = name ++ ".md".toList := by
  rcases eq_rootJob_or_exists_entity h with rfl | ⟨e, he⟩
  · exact ⟨"api/index".toList, rfl⟩
  · exact exists_markdown_of_filePath? (exists_of_entityJob? he).1

end Run

end ApiSite
