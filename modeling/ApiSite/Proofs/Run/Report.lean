import ApiSite.Proofs.Run.Pages

/-!
# What a report says and what a run writes

A report lists the targets of a site without anchors (`IsReported`); a run writes the page of the
site and those of the entities that have pages. The two are found by different tests. The report
asks whether an entity is public and has an address, and for a declaration whether its library has
a file. A run goes through the libraries that can be navigated to, which are public and hold
something public, and writes a topic exactly if it has entities.

So a report has pages that are never written (`Unwritten`) and leaves out some that are
(`Unreported`), and it has the page of the site only where a package is public. The main result,
`reported_iff_written`, is that they agree up to these, and that each of these is a difference.
-/

set_option autoImplicit false

namespace ApiSite.Run

open Model Location

variable {site : Site} {p p' l l' e t : Entity}

/-- The files of the targets without anchors that a report lists. -/
def reportedPaths (site : Site) : List Text :=
  ((site.location.targets site.model).filter fun t ↦ t.anchor.isNone).filterMap LinkTarget.filePath

/-- The files that the pages of a run are written to. -/
def writtenPaths (site : Site) : List Text := (pageJobs site).map PageJob.path

/-! ### What is reported -/

/-- An entity that is a target without an anchor. -/
inductive IsReported (site : Site) : Entity → Prop
  | package {p : Entity} (hp : p ∈ site.model.localPackages) (hpublic : p.isPublic = true) :
    IsReported site p
  | library {p l : Entity} (hp : p ∈ site.model.localPackages) (hl : l ∈ p.libraries)
    (hfile : (site.location.filePath? l).isSome) (hpublic : l.isPublic = true)
    (hurl : (site.location.url? l).isSome) : IsReported site l
  | declaration {p l e : Entity} (hp : p ∈ site.model.localPackages) (hl : l ∈ p.libraries)
    (hfile : (site.location.filePath? l).isSome) (he : e ∈ l.containers ++ l.topLevel)
    (hpage : (site.location.filePath? e).isSome) : IsReported site e
  | topic {p t : Entity} (hp : p ∈ site.model.localPackages) (ht : t ∈ p.topics)
    (hpublic : t.isPublic = true) : IsReported site t

/-- Where the report and the run differ: what is reported and not written. -/
inductive Unwritten (site : Site) : Entity → Prop
  /-- A public library with nothing public in it. -/
  | emptyLibrary {p l : Entity} (hp : p ∈ site.model.localPackages) (hl : l ∈ p.libraries)
    (hfile : (site.location.filePath? l).isSome) (hpublic : l.isPublic = true)
    (hurl : (site.location.url? l).isSome) (hempty : isEmptyLibrary l = true) : Unwritten site l
  /-- Something public in a private library. -/
  | inPrivateLibrary {p l e : Entity} (hp : p ∈ site.model.localPackages) (hl : l ∈ p.libraries)
    (hfile : (site.location.filePath? l).isSome) (hprivate : l.isPublic = false)
    (he : e ∈ l.containers ++ l.topLevel) (hpage : (site.location.filePath? e).isSome) :
    Unwritten site e
  /-- A public topic without entities. -/
  | emptyTopic {p t : Entity} (hp : p ∈ site.model.localPackages) (ht : t ∈ p.topics)
    (hpublic : t.isPublic = true) (hempty : isFilled t = false) : Unwritten site t

/-- Where the report and the run differ: what is written and not reported. -/
inductive Unreported (site : Site) : Entity → Prop
  /-- A library whose directory is the empty text: it has a file, but no address. -/
  | unnamedLibrary {p l : Entity} (hp : p ∈ site.model.localPackages)
    (hl : l ∈ site.location.navigableLibraries p) (hfile : (site.location.filePath? l).isSome)
    (hurl : site.location.url? l = none) : Unreported site l
  /-- A private topic with entities. -/
  | privateTopic {p t : Entity} (hp : p ∈ site.model.localPackages) (ht : t ∈ p.topics)
    (hprivate : t.isPublic = false) (hfilled : isFilled t = true) : Unreported site t

/-! ### Targets without anchors -/

theorem exists_node_of_mem_localPackages (hp : p ∈ site.model.localPackages) :
    ∃ pkg, p.node = .package pkg := by
  obtain ⟨i, pkg, -, rfl⟩ := mem_entities.mp (List.mem_filter.mp hp).1
  exact ⟨pkg, rfl⟩

/-- An entity gives a target without an anchor and with a file. -/
theorem exists_target_iff {loc : Location} {path : Text} :
    (∃ t, loc.target? e = some t ∧ t.anchor = none ∧ t.filePath = some path) ↔
      e.isPublic = true ∧ (loc.url? e).isSome ∧ anchor? e = none ∧ loc.filePath? e = some path := by
  unfold target?
  cases e.isPublic with
  | false => simp
  | true =>
    cases loc.url? e with
    | none => simp
    | some url => simp

/-- What has a file in a library is public, and has an address. -/
theorem isPublic_of_isSome_filePath? {m : Model} {loc : Location} (hl : l ∈ localLibraries m)
    (he : e ∈ l.containers ++ l.topLevel) (hpage : (loc.filePath? e).isSome) :
    e.isPublic = true ∧ (loc.url? e).isSome := by
  rw [filePath?_declaration he, Option.isSome_map, pageFile?_of_mem hl he] at hpage
  rw [url?_declaration he, Option.isSome_map, pageFile?_of_mem hl he]
  refine ⟨?_, hpage⟩
  by_contra hprivate
  simp [hprivate] at hpage

theorem anchor?_eq_none_iff : anchor? e = none ↔ ∀ x, e.node ≠ .member x := by
  unfold anchor?
  split
  · next x hnode => simp [hnode]
  · next hnode => exact ⟨fun _ x hmember ↦ hnode x hmember, fun _ ↦ rfl⟩

/-- Everything that a report goes through is reported if it has no anchor, is public and has an
address. -/
theorem isReported_of_mem (hp : p ∈ site.model.localPackages)
    (he : e ∈ p :: p.libraries.flatMap site.location.libraryTargets ++ p.topics)
    (hanchor : anchor? e = none) (hpublic : e.isPublic = true)
    (hurl : (site.location.url? e).isSome) (hpage : (site.location.filePath? e).isSome) :
    IsReported site e := by
  rcases List.mem_append.mp he with he | htopic
  · rcases List.mem_cons.mp he with rfl | he
    · exact .package hp hpublic
    · obtain ⟨l, hl, he⟩ := List.mem_flatMap.mp he
      unfold libraryTargets at he
      split at he
      · next hfile =>
        rcases List.mem_append.mp he with he | he
        · rcases List.mem_cons.mp he with rfl | he
          · exact .library hp hl hfile hpublic hurl
          · obtain ⟨c, hc, he⟩ := List.mem_flatMap.mp he
            rcases List.mem_cons.mp he with rfl | he
            · exact .declaration hp hl hfile (List.mem_append_left _ hc) hpage
            · -- A member has an anchor.
              split at he
              · obtain ⟨x, hnode⟩ := Entity.exists_node_of_mem_members he
                exact absurd hnode (anchor?_eq_none_iff.mp hanchor x)
              · exact absurd he List.not_mem_nil
        · exact .declaration hp hl hfile (List.mem_append_right _ he) hpage
      · exact absurd he List.not_mem_nil
  · exact .topic hp htopic hpublic

theorem IsReported.mem (h : IsReported site e) : ∃ p ∈ site.model.localPackages,
    e ∈ p :: p.libraries.flatMap site.location.libraryTargets ++ p.topics := by
  cases h with
  | package hp => exact ⟨e, hp, List.mem_append_left _ List.mem_cons_self⟩
  | @library p _ hp hl hfile =>
    refine ⟨p, hp, List.mem_append_left _ (List.mem_cons_of_mem _ ?_)⟩
    refine List.mem_flatMap.mpr ⟨e, hl, ?_⟩
    rw [libraryTargets, if_pos hfile]
    exact List.mem_append_left _ List.mem_cons_self
  | @declaration p l _ hp hl hfile he =>
    refine ⟨p, hp, List.mem_append_left _ (List.mem_cons_of_mem _ ?_)⟩
    refine List.mem_flatMap.mpr ⟨l, hl, ?_⟩
    rw [libraryTargets, if_pos hfile, List.cons_append]
    refine List.mem_cons_of_mem _ ?_
    rcases List.mem_append.mp he with he | he
    · exact List.mem_append_left _ (List.mem_flatMap.mpr ⟨e, he, List.mem_cons_self⟩)
    · exact List.mem_append_right _ he
  | @topic p _ hp ht => exact ⟨p, hp, List.mem_append_right _ ht⟩

/-- What is reported is public, has an address, and is no member. -/
theorem IsReported.isPublic (h : IsReported site e) :
    e.isPublic = true ∧ (site.location.url? e).isSome ∧ anchor? e = none := by
  cases h with
  | package hp hpublic =>
    obtain ⟨pkg, hnode⟩ := exists_node_of_mem_localPackages hp
    exact ⟨hpublic, by simp [url?, pageUrl?, hnode], anchor?_eq_none_iff.mpr (by simp [hnode])⟩
  | library hp hl hfile hpublic hurl =>
    obtain ⟨lib, hnode⟩ := Entity.exists_node_of_mem_libraries hl
    exact ⟨hpublic, hurl, anchor?_eq_none_iff.mpr (by simp [hnode])⟩
  | declaration hp hl hfile he hpage =>
    obtain ⟨hpublic, hurl⟩ :=
      isPublic_of_isSome_filePath? (mem_localLibraries_of_mem hp hl) he hpage
    refine ⟨hpublic, hurl, anchor?_eq_none_iff.mpr ?_⟩
    rcases Entity.exists_node_of_mem_declarations he with ⟨c, hnode⟩ | ⟨x, hnode⟩ <;> simp [hnode]
  | topic hp ht hpublic =>
    obtain ⟨x, hnode⟩ := Entity.exists_node_of_mem_topics ht
    refine ⟨hpublic, ?_, anchor?_eq_none_iff.mpr (by simp [hnode])⟩
    rw [url?_topic ht]
    rfl

/-- The report has the files of the entities that are reported. -/
theorem mem_reportedPaths {path : Text} : path ∈ reportedPaths site ↔
    ∃ e, IsReported site e ∧ site.location.filePath? e = some path := by
  have htargets : path ∈ reportedPaths site ↔ ∃ p ∈ site.model.localPackages,
      ∃ e ∈ p :: p.libraries.flatMap site.location.libraryTargets ++ p.topics,
        ∃ t, site.location.target? e = some t ∧ t.anchor = none ∧ t.filePath = some path := by
    simp only [reportedPaths, targets, List.mem_filterMap, List.mem_filter, List.mem_flatMap,
      Option.isNone_iff_eq_none]
    constructor
    · rintro ⟨t, ⟨⟨e, ⟨p, hp, he⟩, htarget⟩, hanchor⟩, hpath⟩
      exact ⟨p, hp, e, he, t, htarget, hanchor, hpath⟩
    · rintro ⟨p, hp, e, he, t, htarget, hanchor, hpath⟩
      exact ⟨t, ⟨⟨e, ⟨p, hp, he⟩, htarget⟩, hanchor⟩, hpath⟩
  rw [htargets]
  constructor
  · rintro ⟨p, hp, e, he, htarget⟩
    obtain ⟨hpublic, hurl, hanchor, hpath⟩ := exists_target_iff.mp htarget
    exact ⟨e, isReported_of_mem hp he hanchor hpublic hurl (by simp [hpath]), hpath⟩
  · rintro ⟨e, h, hpath⟩
    obtain ⟨p, hp, he⟩ := h.mem
    obtain ⟨hpublic, hurl, hanchor⟩ := h.isPublic
    exact ⟨p, hp, e, he, exists_target_iff.mpr ⟨hpublic, hurl, hanchor, hpath⟩⟩

/-! ### The differences -/

/-- A library with a file is left out only if it is private or empty. -/
theorem mem_navigableLibraries_iff {loc : Location} (hl : l ∈ p.libraries)
    (hfile : (loc.filePath? l).isSome) :
    l ∈ loc.navigableLibraries p ↔ l.isPublic = true ∧ isEmptyLibrary l = false := by
  obtain ⟨lib, hnode⟩ := Entity.exists_node_of_mem_libraries hl
  have hdir : loc.isDuplicate l.name = false ∧ loc.isInternal l.name = false := by
    rw [filePath?, hnode] at hfile
    simp only at hfile
    split at hfile
    · cases hfile
    · next hduplicate =>
      rw [Option.isSome_map, libraryDir?] at hfile
      split at hfile
      · next hlibrary =>
        exact ⟨Bool.eq_false_iff.mpr hduplicate,
          (Bool.not_eq_true' _).mp (Bool.and_eq_true_iff.mp hlibrary).2⟩
      · cases hfile
  rw [mem_navigableLibraries]
  exact ⟨fun h ↦ ⟨h.2.1, h.2.2.2.2⟩, fun h ↦ ⟨hl, h.1, hdir.2, hdir.1, h.2⟩⟩

/-- A library with something public in it is not empty. -/
theorem isEmptyLibrary_eq_false {m : Model} (hl : l ∈ localLibraries m)
    (he : e ∈ l.containers ++ l.topLevel) (hpublic : e.isPublic = true) :
    isEmptyLibrary l = false := by
  obtain ⟨i, j, pkg, lib, -, -, rfl⟩ := mem_localLibraries hl
  have hempty : isEmptyLibrary ⟨.library i j, .library lib, [.package pkg]⟩ = lib.isEmpty := rfl
  rw [hempty, Library.isEmpty, Bool.and_eq_false_iff, Bool.not_eq_false', Bool.not_eq_false',
    List.any_eq_true, List.any_eq_true]
  rcases List.mem_append.mp he with he | he
  · obtain ⟨k, c, hc, rfl⟩ := mem_containers.mp he
    exact Or.inl ⟨c, List.mem_of_getElem? hc, hpublic⟩
  · obtain ⟨k, t, ht, rfl⟩ := mem_topLevel.mp he
    exact Or.inr ⟨t, List.mem_of_getElem? ht, hpublic⟩

theorem IsReported.written_or_unwritten (h : IsReported site e) :
    (∃ pkg, e.node = .package pkg) ∨ e ∈ pageEntities site ∨ Unwritten site e := by
  cases h with
  | package hp => exact Or.inl (exists_node_of_mem_localPackages hp)
  | @library p _ hp hl hfile hpublic hurl =>
    right
    cases hempty : isEmptyLibrary e with
    | true => exact Or.inr (.emptyLibrary hp hl hfile hpublic hurl hempty)
    | false =>
      have hnavigable := (mem_navigableLibraries_iff hl hfile).mpr ⟨hpublic, hempty⟩
      exact Or.inl (mem_pageEntities.mpr ⟨p, hp, Or.inl ⟨e, hnavigable, hfile, Or.inl rfl⟩⟩)
  | @declaration p l _ hp hl hfile he hpage =>
    right
    cases hpublic : l.isPublic with
    | false => exact Or.inr (.inPrivateLibrary hp hl hfile hpublic he hpage)
    | true =>
      have hmem := mem_localLibraries_of_mem hp hl
      have hempty := isEmptyLibrary_eq_false hmem he (isPublic_of_isSome_filePath? hmem he hpage).1
      have hnavigable := (mem_navigableLibraries_iff hl hfile).mpr ⟨hpublic, hempty⟩
      exact Or.inl (mem_pageEntities.mpr
        ⟨p, hp, Or.inl ⟨l, hnavigable, hfile, Or.inr ⟨he, hpage⟩⟩⟩)
  | @topic p _ hp ht hpublic =>
    right
    cases hfilled : isFilled e with
    | true => exact Or.inl (mem_pageEntities.mpr ⟨p, hp, Or.inr ⟨ht, hfilled⟩⟩)
    | false => exact Or.inr (.emptyTopic hp ht hpublic hfilled)

theorem reported_or_unreported (h : e ∈ pageEntities site) :
    IsReported site e ∨ Unreported site e := by
  obtain ⟨p, hp, ⟨l, hl, hfile, rfl | ⟨he, hpage⟩⟩ | ⟨ht, hfilled⟩⟩ := mem_pageEntities.mp h
  · obtain ⟨hmem, hpublic, -⟩ := mem_navigableLibraries.mp hl
    cases hurl : site.location.url? e with
    | none => exact Or.inr (.unnamedLibrary hp hl hfile hurl)
    | some url => exact Or.inl (.library hp hmem hfile hpublic (by simp [hurl]))
  · exact Or.inl (.declaration hp (mem_navigableLibraries.mp hl).1 hfile he hpage)
  · cases hpublic : e.isPublic with
    | true => exact Or.inl (.topic hp ht hpublic)
    | false => exact Or.inr (.privateTopic hp ht hpublic hfilled)

theorem Unwritten.isReported (h : Unwritten site e) : IsReported site e := by
  cases h with
  | emptyLibrary hp hl hfile hpublic hurl => exact .library hp hl hfile hpublic hurl
  | inPrivateLibrary hp hl hfile _ he hpage => exact .declaration hp hl hfile he hpage
  | emptyTopic hp ht hpublic => exact .topic hp ht hpublic

theorem ne_of_library_of_declaration {e : Entity} (hl : l ∈ p.libraries)
    (he : e ∈ l'.containers ++ l'.topLevel) : l ≠ e := by
  rintro rfl
  obtain ⟨lib, hnode⟩ := Entity.exists_node_of_mem_libraries hl
  rcases Entity.exists_node_of_mem_declarations he with ⟨c, hc⟩ | ⟨x, hx⟩
  · cases hnode.symm.trans hc
  · cases hnode.symm.trans hx

theorem ne_of_library_of_topic (hl : l ∈ p.libraries) (ht : t ∈ p'.topics) : l ≠ t := by
  rintro rfl
  obtain ⟨lib, hnode⟩ := Entity.exists_node_of_mem_libraries hl
  obtain ⟨x, hx⟩ := Entity.exists_node_of_mem_topics ht
  cases hnode.symm.trans hx

theorem ne_of_declaration_of_topic {e : Entity} (he : e ∈ l.containers ++ l.topLevel)
    (ht : t ∈ p.topics) : e ≠ t := by
  rintro rfl
  obtain ⟨x, hx⟩ := Entity.exists_node_of_mem_topics ht
  rcases Entity.exists_node_of_mem_declarations he with ⟨c, hc⟩ | ⟨c, hc⟩
  · cases hc.symm.trans hx
  · cases hc.symm.trans hx

/-- What is unwritten has no page, whatever the entity is that the page would be of. -/
theorem Unwritten.not_mem_pageEntities (h : Unwritten site e) : e ∉ pageEntities site := by
  intro hmem
  obtain ⟨p', hp', ⟨l', hl', -, hcase⟩ | ⟨ht', hfilled⟩⟩ := mem_pageEntities.mp hmem
  · obtain ⟨hlibrary, hpublic', -, -, hempty'⟩ := mem_navigableLibraries.mp hl'
    cases h with
    | emptyLibrary hp hl hfile hpublic hurl hempty =>
      rcases hcase with rfl | ⟨he', -⟩
      · exact Bool.false_ne_true (hempty'.symm.trans hempty)
      · exact ne_of_library_of_declaration hl he' rfl
    | inPrivateLibrary hp hl hfile hprivate he =>
      rcases hcase with rfl | ⟨he', -⟩
      · exact ne_of_library_of_declaration hlibrary he rfl
      · obtain ⟨rfl, -⟩ := eq_of_declaration_place_eq (mem_localLibraries_of_mem hp hl)
          (mem_localLibraries_of_mem hp' hlibrary) he he' rfl
        exact Bool.false_ne_true (hprivate.symm.trans hpublic')
    | emptyTopic hp ht =>
      rcases hcase with rfl | ⟨he', -⟩
      · exact ne_of_library_of_topic hlibrary ht rfl
      · exact ne_of_declaration_of_topic he' ht rfl
  · cases h with
    | emptyLibrary hp hl => exact ne_of_library_of_topic hl ht' rfl
    | inPrivateLibrary hp hl hfile hprivate he => exact ne_of_declaration_of_topic he ht' rfl
    | emptyTopic hp ht hpublic hempty => exact Bool.false_ne_true (hempty.symm.trans hfilled)

theorem Unreported.mem_pageEntities (h : Unreported site e) : e ∈ pageEntities site := by
  cases h with
  | @unnamedLibrary p _ hp hl hfile =>
    exact Run.mem_pageEntities.mpr ⟨p, hp, Or.inl ⟨e, hl, hfile, Or.inl rfl⟩⟩
  | @privateTopic p _ hp ht _ hfilled =>
    exact Run.mem_pageEntities.mpr ⟨p, hp, Or.inr ⟨ht, hfilled⟩⟩

theorem Unreported.target?_eq_none (h : Unreported site e) : site.location.target? e = none := by
  cases h with
  | unnamedLibrary _ _ _ hurl => simp [target?, hurl]
  | privateTopic _ _ hprivate => simp [target?, hprivate]

/-! ### The page of the site -/

/-- The page of the site is that of no library, declaration or topic. -/
theorem IsReported.isPackage (h : IsReported site e)
    (hpath : site.location.filePath? e = some "api/index.md".toList) :
    e ∈ site.model.localPackages ∧ e.isPublic = true := by
  -- Files of directories have two slashes.
  have hslashes (dir file : Text) : ("api/" ++ dir ++ "/" ++ file : Text) ≠ "api/index.md" := by
    intro heq
    have hcount := congrArg (List.count '/') heq
    have hroot : List.count '/' ("api/index.md" : Text) = 1 := by decide
    have hstart : List.count '/' ("api/" : Text) = 1 := by decide
    have hslash : List.count '/' ("/" : Text) = 1 := by decide
    rw [List.count_append, List.count_append, List.count_append] at hcount
    omega
  cases h with
  | package hp hpublic => exact ⟨hp, hpublic⟩
  | library hp hl =>
    obtain ⟨lib, hnode⟩ := Entity.exists_node_of_mem_libraries hl
    rw [filePath?, hnode] at hpath
    simp only at hpath
    split at hpath
    · cases hpath
    · obtain ⟨dir, -, hdir⟩ := Option.map_eq_some_iff.mp hpath
      exact absurd (by simpa using hdir) (hslashes (site.location.dirName e) "index.md")
  | @declaration p l _ hp hl hfile he hpage =>
    rw [filePath?_declaration he, pageFile?_of_mem (mem_localLibraries_of_mem hp hl) he] at hpath
    split at hpath
    · obtain ⟨path, hfile, hmd⟩ := Option.map_eq_some_iff.mp hpath
      obtain ⟨file, -, rfl⟩ := Option.map_eq_some_iff.mp hfile
      exact absurd (by simpa using hmd) (hslashes (site.location.dirName l) (file ++ ".md"))
    · cases hpath
  | topic hp ht =>
    rw [filePath?_topic ht] at hpath
    cases hpath

theorem root_mem_reportedPaths_iff : "api/index.md".toList ∈ reportedPaths site ↔
    ∃ p ∈ site.model.localPackages, p.isPublic = true := by
  rw [mem_reportedPaths]
  constructor
  · rintro ⟨e, h, hpath⟩
    exact ⟨e, h.isPackage hpath⟩
  · rintro ⟨p, hp, hpublic⟩
    obtain ⟨pkg, hnode⟩ := exists_node_of_mem_localPackages hp
    exact ⟨p, .package hp hpublic, by rw [filePath?, hnode]⟩

/-- **The report and the run.** The pages that a report lists are those that a run writes, but for
the page of the site, which is always written, and for the entities that are unwritten or
unreported. Each of these is a difference: what is unwritten is a target and has no page, and what
is unreported has a page and is no target; the page of the site is reported exactly if a local
package is public. -/
theorem reported_iff_written (site : Site) :
    (∀ path,
      (path ∈ reportedPaths site ∨ path = "api/index.md" ∨
        ∃ e, Unreported site e ∧ site.location.filePath? e = some path) ↔
      (path ∈ writtenPaths site ∨
        ∃ e, Unwritten site e ∧ site.location.filePath? e = some path)) ∧
    ("api/index.md".toList ∈ reportedPaths site ↔
      ∃ p ∈ site.model.localPackages, p.isPublic = true) ∧
    (∀ e, Unwritten site e → IsReported site e ∧ e ∉ pageEntities site) ∧
    ∀ e, Unreported site e → site.location.target? e = none ∧ e ∈ pageEntities site := by
  refine ⟨fun path ↦ ?_, root_mem_reportedPaths_iff,
    fun e h ↦ ⟨h.isReported, h.not_mem_pageEntities⟩,
    fun e h ↦ ⟨h.target?_eq_none, h.mem_pageEntities⟩⟩
  rw [mem_reportedPaths, writtenPaths, mem_map_path_pageJobs]
  constructor
  · rintro (⟨e, h, hpath⟩ | rfl | ⟨e, h, hpath⟩)
    · rcases h.written_or_unwritten with ⟨pkg, hnode⟩ | hwritten | hunwritten
      · rw [filePath?, hnode] at hpath
        exact Or.inl (Or.inl (Option.some.inj hpath).symm)
      · exact Or.inl (Or.inr ⟨e, hwritten, hpath⟩)
      · exact Or.inr ⟨e, hunwritten, hpath⟩
    · exact Or.inl (Or.inl rfl)
    · exact Or.inl (Or.inr ⟨e, h.mem_pageEntities, hpath⟩)
  · rintro ((rfl | ⟨e, h, hpath⟩) | ⟨e, h, hpath⟩)
    · exact Or.inr (Or.inl rfl)
    · rcases reported_or_unreported h with hreported | hunreported
      · exact Or.inl ⟨e, hreported, hpath⟩
      · exact Or.inr (Or.inr ⟨e, hunreported, hpath⟩)
    · exact Or.inl ⟨e, h.isReported, hpath⟩

/-! ### A topic without entities -/

/-- A site of one package with a topic that no declaration belongs to. -/
def petsSite : Site :=
  let model : Model := ⟨[{ name := "kit", topics := [{ name := "Pets" }] }], [], []⟩
  ⟨model, ofModel ⟨[], [], [], []⟩ model, .of [] [], [], 80, none⟩

/-- The report has a page for the topic that is not written. -/
example : reportedPaths petsSite = Text.ofStrings ["api/index.md", "topics/Pets.md"] ∧
    writtenPaths petsSite = Text.ofStrings ["api/index.md"] := by
  decide +kernel

end ApiSite.Run
