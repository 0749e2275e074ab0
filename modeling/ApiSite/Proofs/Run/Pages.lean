import ApiSite.Proofs.Location.Addresses
import ApiSite.Proofs.Page.Steady

/-!
# Which entities have pages

The pages of a run are made one after the other: that of the site, and those of the entities that
the site shows (`pageEntities`), which are the libraries that can be navigated to, what is in them
and has a file, and the topics with entities. Each of these gives one page (`map_some_pageJobs`).
-/

set_option autoImplicit false

namespace ApiSite

open Model

variable {m : Model} {loc : Location} {p l e : Entity}

namespace Run

open Location

variable {site : Site}

/-! ### The entities that have pages -/

theorem isSome_entityJob? (site : Site) (e : Entity) :
    (entityJob? site e).isSome = (site.location.filePath? e).isSome := by
  unfold entityJob? Location.filePath? Page.entity?
  cases e.node with
  | package p | topic t | member m => rfl
  | library l =>
    simp only
    split
    · rfl
    · cases site.location.libraryDir? e <;> rfl
  | container c | topLevel t => cases site.location.pageFile? e <;> rfl

/-- A library with what is in it, as far as there are files for it. -/
def libraryPages (site : Site) (l : Entity) : List Entity :=
  if (site.location.filePath? l).isSome then
    l :: (l.containers ++ l.topLevel).filter fun e ↦ (site.location.filePath? e).isSome
  else []

/-- What a package has pages for. -/
def packagePages (site : Site) (p : Entity) : List Entity :=
  (site.location.navigableLibraries p).flatMap (libraryPages site) ++ p.topics.filter isFilled

/-- The entities that have pages, in the order in which these are written. -/
def pageEntities (site : Site) : List Entity := site.model.localPackages.flatMap (packagePages site)

theorem map_some_filterMap {α β : Type} (f : α → Option β) (l : List α) :
    (l.filterMap f).map some = (l.filter fun a ↦ (f a).isSome).map f := by
  induction l with
  | nil => rfl
  | cons a l ih =>
    cases hf : f a with
    | none => simp [hf, ih]
    | some b => simp [hf, ih]

theorem map_some_libraryJobs (site : Site) (l : Entity) :
    (libraryJobs site l).map some = (libraryPages site l).map (entityJob? site) := by
  have hsome := isSome_entityJob? site l
  unfold libraryJobs libraryPages
  cases hjob : entityJob? site l with
  | none =>
    rw [hjob, Option.isSome_none] at hsome
    rw [← hsome]
    rfl
  | some job =>
    rw [hjob, Option.isSome_some] at hsome
    simp only [← hsome, if_true, List.map_cons, hjob, map_some_filterMap, isSome_entityJob?]

theorem map_some_topicJobs (site : Site) (p : Entity) :
    ((p.topics.filter isFilled).filterMap (entityJob? site)).map some =
      (p.topics.filter isFilled).map (entityJob? site) := by
  rw [map_some_filterMap, List.filter_eq_self.mpr]
  intro t ht
  rw [isSome_entityJob?, filePath?_topic (List.mem_filter.mp ht).1]
  rfl

/-- **Pages and entities.** The pages of a site are the one that stands above all others and one for
each of the entities that have pages. -/
theorem map_some_pageJobs (site : Site) :
    (pageJobs site).map some =
      some (rootJob site) :: (pageEntities site).map (entityJob? site) := by
  have hpackage (p : Entity) :
      (packageJobs site p).map some = (packagePages site p).map (entityJob? site) := by
    simp only [packageJobs, packagePages, List.map_append, List.map_flatMap, map_some_libraryJobs,
      map_some_topicJobs]
  simp only [pageJobs, pageEntities, List.map_cons, List.map_flatMap, hpackage]

/-- A library that can be navigated to has a page. -/
theorem exists_filePath?_of_navigable (hp : p ∈ site.model.localPackages)
    (hl : l ∈ site.location.navigableLibraries p) :
    ∃ path, site.location.filePath? l = some path := by
  obtain ⟨hmem, -, hinternal, hduplicate, -⟩ := mem_navigableLibraries.mp hl
  obtain ⟨lib, hnode⟩ := Entity.exists_node_of_mem_libraries hmem
  have hdir : site.location.libraryDir? l = some (site.location.dirName l) := by
    rw [libraryDir?_of_mem (mem_localLibraries_of_mem hp hmem), hinternal,
      if_neg Bool.false_ne_true]
  rw [filePath?, hnode]
  simp only [hduplicate, Bool.false_eq_true, if_false, hdir, Option.map_some]
  exact ⟨_, rfl⟩

/-- What has a page is a library that can be navigated to, a declaration of one, or a topic with
entities. -/
theorem mem_pageEntities : e ∈ pageEntities site ↔ ∃ p ∈ site.model.localPackages,
    (∃ l ∈ site.location.navigableLibraries p, (site.location.filePath? l).isSome ∧
      (e = l ∨ e ∈ l.containers ++ l.topLevel ∧ (site.location.filePath? e).isSome)) ∨
    e ∈ p.topics ∧ isFilled e = true := by
  simp only [pageEntities, packagePages, List.mem_flatMap, List.mem_append, List.mem_filter]
  refine exists_congr fun p ↦ and_congr_right fun _ ↦ or_congr_left ?_
  refine exists_congr fun l ↦ and_congr_right fun _ ↦ ?_
  unfold libraryPages
  split
  · next hfile => simp only [hfile, true_and, List.mem_cons, List.mem_filter, List.mem_append]
  · next hfile => simp [hfile]

/-- The files that the pages of a run are written to. -/
theorem mem_map_path_pageJobs {path : Text} : path ∈ (pageJobs site).map PageJob.path ↔
    path = "api/index.md" ∨
      ∃ e ∈ pageEntities site, site.location.filePath? e = some path := by
  have hjobs : ∀ job, job ∈ pageJobs site ↔
      job = rootJob site ∨ ∃ e ∈ pageEntities site, entityJob? site e = some job := by
    intro job
    have hmem : job ∈ pageJobs site ↔ some job ∈ (pageJobs site).map some := by simp
    rw [hmem, map_some_pageJobs, List.mem_cons, Option.some.injEq, List.mem_map]
  simp only [List.mem_map, hjobs]
  constructor
  · rintro ⟨job, rfl | ⟨e, he, hjob⟩, rfl⟩
    · exact Or.inl rfl
    · exact Or.inr ⟨e, he, (exists_of_entityJob? hjob).1⟩
  · rintro (rfl | ⟨e, he, hpath⟩)
    · exact ⟨rootJob site, Or.inl rfl, rfl⟩
    · have hsome := isSome_entityJob? site e
      rw [hpath, Option.isSome_some] at hsome
      obtain ⟨job, hjob⟩ := Option.isSome_iff_exists.mp hsome
      refine ⟨job, Or.inr ⟨e, he, hjob⟩, Option.some.inj ?_⟩
      rw [← (exists_of_entityJob? hjob).1, hpath]

end Run

end ApiSite
