import ApiSite.Proofs.Model.Loading
import ApiSite.Proofs.Navigation.Reading
import ApiSite.Proofs.Page.Sections
import ApiSite.Proofs.Run.Pages

/-!
# The navigation leads to the pages

The navigation and the pages of a run are found by different tests. The navigation takes the public
declarations of a library that are in a section of its overview and have an address; a run takes
those that have a file. In a model that was read every public declaration is in exactly one section
(`groupEntities_perm`), and in a library with a name that can be navigated to it has both a file
(`IsShown.isSome_filePath?_eq`) and an address (`IsShown.url?_declaration`). So the items of the
navigation, as they are read from its file, are the pages of declarations and topics, and its groups
are the pages of libraries (`items_perm_pages`).
-/

set_option autoImplicit false

namespace ApiSite

open Model Location

variable {site : Site} {rules : Settings.LibraryRules} {p l e : Entity}

namespace Page

/-! ### Sections of overviews -/

/-- Filtering by each of some keys gives what has one of these keys. -/
theorem flatMap_filter_perm {α κ : Type} [BEq κ] [LawfulBEq κ] {keys : List κ} (hkeys : keys.Nodup)
    (key? : α → Option κ) (l : List α) :
    (keys.flatMap fun k ↦ l.filter fun a ↦ key? a == some k).Perm
      (l.filter fun a ↦ (key? a).any keys.contains) := by
  refine List.flatMap_filter_perm_of_length fun a _ ↦ ?_
  cases key? a with
  | none => simp
  | some k =>
    have hcount : (keys.filter fun k' ↦ some k == some k').length = keys.count k := by
      rw [List.count_eq_countP, List.countP_eq_length_filter]
      refine congrArg List.length (List.filter_congr fun k' _ ↦ ?_)
      simp [BEq.comm]
    rw [hcount, hkeys.count]
    simp only [Option.any_some, List.contains_iff_mem]

/-- Each declaration is in a section of the overview. -/
def HasSection (e : Entity) : Prop := ∃ x ∈ overviewTitles, overviewTitle? e = some x.1

/-- The sections of an overview hold the public entities, each of them once. -/
theorem groupEntities_perm {entities : List Entity} (h : ∀ e ∈ entities, HasSection e) :
    ((groupEntities entities).flatMap Group.entities).Perm (entities.filter Entity.isPublic) := by
  have htitles : (overviewTitles.map Prod.fst).Nodup := by decide
  have hsections : ((groupEntities entities).flatMap Group.entities).Perm
      ((overviewTitles.map Prod.fst).flatMap fun title ↦
        (entities.filter Entity.isPublic).filter fun e ↦ overviewTitle? e == some title) := by
    rw [groupEntities, List.flatMap_map, List.flatMap_map]
    refine List.Perm.flatMap_left _ fun x _ ↦ ?_
    refine (Text.sortByName_perm _ _).trans (List.Perm.of_eq ?_)
    rw [List.filter_filter]
    exact List.filter_congr fun e _ ↦ Bool.and_comm _ _
  refine hsections.trans ((flatMap_filter_perm htitles overviewTitle? _).trans
    (List.Perm.of_eq (List.filter_eq_self.mpr fun e he ↦ ?_)))
  obtain ⟨x, hx, htitle⟩ := h e (List.mem_filter.mp he).1
  rw [htitle, Option.any_some, List.contains_iff_mem]
  exact List.mem_map_of_mem hx

theorem hasSection_container {c : Container} (hkind : isContainerKind c.kind = true)
    (hnode : e.node = .container c) : HasSection e := by
  have htable : ∀ kind ∈ containerKinds, ∃ x ∈ overviewTitles,
      (containerTitles.find? (·.1 == kind)).map (·.2) = some x.1 := by decide
  unfold HasSection overviewTitle?
  simp only [hnode, containerTitle?]
  split
  · exact ⟨_, List.mem_cons_of_mem _ List.mem_cons_self, rfl⟩
  · exact htable c.kind (List.contains_iff_mem.mp hkind)

theorem hasSection_topLevel {t : TopLevel} (hkind : isTopLevelKind t.kind = true)
    (hnode : e.node = .topLevel t) : HasSection e := by
  have hkinds : t.kind = "function" ∨ t.kind = "variable" ∨ t.kind = "typedef" := by
    have hmem : t.kind ∈ topLevelKinds := List.contains_iff_mem.mp hkind
    simpa only [topLevelKinds, Text.ofStrings, List.map_cons, List.map_nil, List.mem_cons,
      List.not_mem_nil, or_false] using hmem
  unfold HasSection overviewTitle?
  simp only [hnode]
  rcases hkinds with hkind | hkind | hkind
  · exact ⟨("Functions", "Function"), by decide, by rw [hkind]; rfl⟩
  · cases hconst : t.isConst with
    | true => exact ⟨("Constants", "Constant"), by decide, by rw [hkind]; rfl⟩
    | false => exact ⟨("Properties", "Property"), by decide, by rw [hkind]; rfl⟩
  · exact ⟨("Typedefs", "Typedef"), by decide, by rw [hkind]; rfl⟩

/-- In a sound model each declaration of a library has a section. -/
theorem hasSection_of_mem {m : Model} (hm : m.IsSound) (hl : l ∈ localLibraries m)
    (he : e ∈ l.containers ++ l.topLevel) : HasSection e := by
  obtain ⟨i, j, pkg, lib, hpkg, hlib, rfl⟩ := mem_localLibraries hl
  have hsound := hm pkg (List.mem_of_getElem? hpkg) lib (List.mem_of_getElem? hlib)
  rcases List.mem_append.mp he with he | he
  · obtain ⟨k, c, hc, rfl⟩ := mem_containers.mp he
    exact hasSection_container (hsound.containers c (List.mem_of_getElem? hc)) rfl
  · obtain ⟨k, t, ht, rfl⟩ := mem_topLevel.mp he
    exact hasSection_topLevel (hsound.topLevel t (List.mem_of_getElem? ht)) rfl

end Page

namespace Location

variable {m : Model} {loc : Location}

/-! ### Libraries that are shown -/

/-- What the navigation and a run ask about a library: it can be navigated to, in a sound model, and
has a name. -/
structure IsShown (loc : Location) (m : Model) (l : Entity) : Prop where
  mem : l ∈ localLibraries m
  isInternal : loc.isInternal l.name = false
  isDuplicate : loc.isDuplicate l.name = false
  dirName : loc.dirName l ≠ []
  sections : ∀ e ∈ l.containers ++ l.topLevel, Page.HasSection e

theorem isShown_of_navigable (hm : m.IsSound) (hnames : ∀ l ∈ localLibraries m, l.name ≠ [])
    (hp : p ∈ m.localPackages) (hl : l ∈ loc.navigableLibraries p) : IsShown loc m l := by
  obtain ⟨hlp, -, hinternal, hduplicate, -⟩ := mem_navigableLibraries.mp hl
  have hmem := mem_localLibraries_of_mem hp hlp
  have hwanted := wantedDirName_ne_nil (asksForDirectories_of_isSound hm)
    (List.mem_of_mem_filter hp) hlp (hnames l hmem)
  exact ⟨hmem, hinternal, hduplicate, dirName_ne_nil hwanted,
    fun e he ↦ Page.hasSection_of_mem hm hmem he⟩

theorem exists_node_of_mem_localLibraries (hl : l ∈ localLibraries m) :
    ∃ lib, l.node = .library lib := by
  obtain ⟨i, j, pkg, lib, -, -, rfl⟩ := mem_localLibraries hl
  exact ⟨lib, rfl⟩

theorem IsShown.libraryDir? (h : IsShown loc m l) : loc.libraryDir? l = some (loc.dirName l) := by
  rw [libraryDir?_of_mem h.mem, h.isInternal, if_neg Bool.false_ne_true]

theorem IsShown.url? (h : IsShown loc m l) : loc.url? l = some (loc.libraryUrl l) := by
  obtain ⟨lib, hnode⟩ := exists_node_of_mem_localLibraries h.mem
  rw [Location.url?, hnode]
  simp only [pageUrl?, hnode, h.libraryDir?, Option.bind_some]
  rw [nonempty, if_neg (by simpa using h.dirName)]
  rfl

theorem IsShown.isSome_filePath? (h : IsShown loc m l) : (loc.filePath? l).isSome := by
  obtain ⟨lib, hnode⟩ := exists_node_of_mem_localLibraries h.mem
  rw [filePath?, hnode]
  simp only [h.isDuplicate, Bool.false_eq_true, if_false, h.libraryDir?, Option.map_some,
    Option.isSome_some]

/-- In a library that is shown a declaration has a page file exactly if it is public. -/
theorem IsShown.pageFile? (h : IsShown (ofModel rules m) m l)
    (he : e ∈ l.containers ++ l.topLevel) :
    (ofModel rules m).pageFile? e = if e.isPublic then
      some ("api/" ++ (ofModel rules m).dirName l ++ "/" ++
        (assignFileName (containerFiles l) e).1)
    else none := by
  rw [pageFile?_of_mem h.mem he, h.isInternal, find?_fileNames h.mem he, Bool.not_false,
    Bool.and_true, Option.map_some]

theorem IsShown.isSome_filePath?_eq (h : IsShown (ofModel rules m) m l)
    (he : e ∈ l.containers ++ l.topLevel) :
    ((ofModel rules m).filePath? e).isSome = e.isPublic := by
  rw [filePath?_declaration he, Option.isSome_map, h.pageFile? he]
  cases e.isPublic <;> rfl

/-- The address of a declaration goes on from that of its library, and not with the name of the
library's own page. -/
theorem IsShown.url?_declaration (h : IsShown (ofModel rules m) m l)
    (he : e ∈ l.containers ++ l.topLevel) (hpublic : e.isPublic = true) :
    ∃ file ≠ "index".toList,
      (ofModel rules m).url? e = some ((ofModel rules m).libraryUrl l ++ file) := by
  refine ⟨(assignFileName (containerFiles l) e).1, fun hindex ↦ ?_, ?_⟩
  · have hlower := lower_assignFileName_ne_index (containerFiles l) e
    rw [hindex] at hlower
    exact hlower (by decide)
  · have hpage := h.pageFile? he
    rw [hpublic, if_pos rfl] at hpage
    have hurl : (ofModel rules m).libraryUrl l =
        '/' :: ("api/" ++ (ofModel rules m).dirName l ++ "/") := rfl
    rw [Location.url?_declaration he, hpage, Option.map_some, hurl, List.cons_append]

end Location

namespace Navigation

open Run

variable {m : Model}

/-! ### Items and groups -/

/-- The items of the navigation with their addresses, but for those of the libraries' own pages. -/
def targets (found : List Finding) : List Item := found.filterMap fun
  | .item name base link => if link = "index".toList then none else some ⟨name, base ++ link⟩
  | .group _ _ => none

/-- The groups of the navigation that have addresses. -/
def groups (found : List Finding) : List Item := found.filterMap fun
  | .group name url => some ⟨name, url⟩
  | .item _ _ _ => none

/-- An item with the address that it leads to. -/
def Item.address (i : Item) : Text × Option Text := (i.name, some i.link)

/-- An entity with the address of its page. -/
def addressOf (loc : Location) (e : Entity) : Text × Option Text := (e.name, loc.url? e)

theorem filterMap_eq_map_of_mem {α β : Type} {f : α → Option β} {g : α → β} {l : List α}
    (h : ∀ a ∈ l, f a = some (g a)) : l.filterMap f = l.map g := by
  rw [← List.filterMap_eq_map]
  exact List.filterMap_congr h

theorem flatMap_items_filter (sections : List Section) :
    (sections.filter fun s ↦ !s.items.isEmpty).flatMap Section.items =
      sections.flatMap Section.items := by
  induction sections with
  | nil => rfl
  | cons s sections ih =>
    cases hitems : s.items with
    | nil => simp [hitems, ih]
    | cons i items => simp [hitems, ih]

/-- The sections of a library hold the items of its public declarations. -/
theorem items_perm {loc : Location} {url : Text} (h : IsShown loc m l) :
    ((sectionsOf loc url l).flatMap Section.items).Perm
      (((l.containers ++ l.topLevel).filter Entity.isPublic).filterMap (itemOf? loc url)) := by
  have hitems : (sectionsOf loc url l).flatMap Section.items =
      ((Page.groupEntities (l.containers ++ l.topLevel)).flatMap Page.Group.entities).filterMap
        (itemOf? loc url) := by
    rw [sectionsOf, flatMap_items_filter, List.flatMap_map, List.filterMap_flatMap]
  rw [hitems]
  exact (Page.groupEntities_perm h.sections).filterMap _

/-- The address of an item, given that of its library; the library's own page has none here. -/
def itemTarget? (url : Text) (i : Item) : Option Item :=
  if i.link = "index".toList then none else some ⟨i.name, url ++ i.link⟩

theorem targets_append (found found' : List Finding) :
    targets (found ++ found') = targets found ++ targets found' := List.filterMap_append

theorem targets_flatMap {α : Type} (f : α → List Finding) (l : List α) :
    targets (l.flatMap f) = l.flatMap fun a ↦ targets (f a) := List.filterMap_flatMap

theorem targets_items (url : Text) (items : List Item) :
    targets (items.map fun i ↦ .item i.name url i.link) = items.filterMap (itemTarget? url) :=
  List.filterMap_map

theorem groups_append (found found' : List Finding) :
    groups (found ++ found') = groups found ++ groups found' := List.filterMap_append

theorem groups_flatMap {α : Type} (f : α → List Finding) (l : List α) :
    groups (l.flatMap f) = l.flatMap fun a ↦ groups (f a) := List.filterMap_flatMap

theorem groups_items (url : Text) (items : List Item) :
    groups (items.map fun i ↦ .item i.name url i.link) = [] := by
  rw [groups, List.filterMap_map, List.filterMap_eq_nil_iff]
  exact fun _ _ ↦ rfl

theorem groups_libraryFindings (g : LibraryGroup) :
    groups (libraryFindings g) = [⟨g.name, g.url⟩] := by
  have hown (found : List Finding) :
      groups (.group g.name g.url :: .item "Overview" g.url "index" :: found) =
        ⟨g.name, g.url⟩ :: groups found := rfl
  rw [libraryFindings, hown, groups_flatMap]
  simp [groups_items]

theorem targets_libraryFindings (g : LibraryGroup) : targets (libraryFindings g) =
    (g.sections.flatMap Section.items).filterMap (itemTarget? g.url) := by
  have hown (found : List Finding) :
      targets (.group g.name g.url :: .item "Overview" g.url "index" :: found) = targets found :=
    rfl
  rw [libraryFindings, hown, targets_flatMap, List.filterMap_flatMap]
  simp only [targets_items]

/-- The group of a library that is shown. -/
def groupOf (loc : Location) (l : Entity) : LibraryGroup :=
  ⟨l.name, loc.libraryUrl l, sectionsOf loc (loc.libraryUrl l) l⟩

theorem libraryGroup?_eq {loc : Location} (h : IsShown loc m l) :
    libraryGroup? loc l = some (groupOf loc l) := by
  rw [libraryGroup?, h.url?, Option.map_some, groupOf]

/-- The items of a library lead to its public declarations. -/
theorem targets_groupOf (h : IsShown (ofModel rules m) m l) :
    ((targets (libraryFindings (groupOf (ofModel rules m) l))).map Item.address).Perm
      (((l.containers ++ l.topLevel).filter Entity.isPublic).map
        (addressOf (ofModel rules m))) := by
  rw [targets_libraryFindings]
  refine (((items_perm h).filterMap _).map _).trans (List.Perm.of_eq ?_)
  rw [List.filterMap_filterMap, List.map_filterMap]
  refine filterMap_eq_map_of_mem fun e he ↦ ?_
  obtain ⟨he, hpublic⟩ := List.mem_filter.mp he
  obtain ⟨file, hindex, hurl⟩ := h.url?_declaration he hpublic
  have hitem : itemOf? (ofModel rules m) ((ofModel rules m).libraryUrl l) e =
      some ⟨e.name, file⟩ := by
    rw [itemOf?, hurl, Option.map_some, Text.dropStart, Text.after?_append, Option.getD_some]
  have htarget : itemTarget? ((ofModel rules m).libraryUrl l) ⟨e.name, file⟩ =
      some ⟨e.name, (ofModel rules m).libraryUrl l ++ file⟩ := if_neg hindex
  simp only [hitem, Option.bind_some]
  rw [addressOf, hurl]
  exact congrArg (Option.map Item.address) htarget

/-- The items of topics lead to the topics. -/
theorem targets_topics {loc : Location} {topics : List Entity}
    (htopics : ∀ t ∈ topics, t ∈ p.topics) :
    (targets ((topics.map fun t ↦ (⟨t.name, (loc.url? t).getD []⟩ : Item)).map
      fun i ↦ .item i.name [] i.link)).map Item.address = topics.map (addressOf loc) := by
  rw [targets_items, List.filterMap_map, List.map_filterMap]
  refine filterMap_eq_map_of_mem fun t ht ↦ ?_
  have hindex : ("/topics/" ++ Naming.fileName t.name : Text) ≠ "index" := fun heq ↦ by cases heq
  simp only [Function.comp_apply, addressOf, url?_topic (htopics t ht), Option.getD_some]
  exact congrArg (Option.map Item.address) (if_neg hindex)

/-! ### Pages of libraries and other pages -/

/-- Whether an entity is a library. -/
def isLibrary (e : Entity) : Bool :=
  match e.node with
  | .library _ => true
  | _ => false

theorem isLibrary_of_mem_libraries (hl : l ∈ p.libraries) : isLibrary l = true := by
  obtain ⟨lib, hnode⟩ := Entity.exists_node_of_mem_libraries hl
  rw [isLibrary, hnode]

theorem isLibrary_of_mem_declarations (he : e ∈ l.containers ++ l.topLevel) :
    isLibrary e = false := by
  rcases Entity.exists_node_of_mem_declarations he with ⟨c, hnode⟩ | ⟨t, hnode⟩ <;>
    rw [isLibrary, hnode]

theorem isLibrary_of_mem_topics (he : e ∈ p.topics) : isLibrary e = false := by
  obtain ⟨t, hnode⟩ := Entity.exists_node_of_mem_topics he
  rw [isLibrary, hnode]

/-- The pages of a library that is shown: its own one, and those of its public declarations. -/
theorem libraryPages_eq (hlocation : site.location = ofModel rules site.model)
    (h : IsShown site.location site.model l) :
    libraryPages site l = l :: (l.containers ++ l.topLevel).filter Entity.isPublic := by
  rw [libraryPages, if_pos h.isSome_filePath?]
  refine congrArg (l :: ·) (List.filter_congr fun e he ↦ ?_)
  rw [hlocation] at h ⊢
  exact h.isSome_filePath?_eq he

/-- The navigation of a package: groups of libraries, and items of topics. -/
theorem packageFindings_eq {loc : Location} (h : ∀ l ∈ loc.navigableLibraries p, IsShown loc m l) :
    packageFindings (packageGroup loc p) =
      ((loc.navigableLibraries p).flatMap fun l ↦ libraryFindings (groupOf loc l)) ++
        ((p.topics.filter Run.isFilled).map fun t ↦ (⟨t.name, (loc.url? t).getD []⟩ : Item)).map
          fun i ↦ .item i.name [] i.link := by
  have hlibraries : (loc.navigableLibraries p).filterMap (libraryGroup? loc) =
      (loc.navigableLibraries p).map (groupOf loc) :=
    filterMap_eq_map_of_mem fun l hl ↦ libraryGroup?_eq (h l hl)
  rw [packageFindings, packageGroup, hlibraries, List.flatMap_map]
  rfl

theorem targets_packageFindings (hlocation : site.location = ofModel rules site.model)
    (h : ∀ l ∈ site.location.navigableLibraries p, IsShown site.location site.model l) :
    ((targets (packageFindings (packageGroup site.location p))).map Item.address).Perm
      (((packagePages site p).filter fun e ↦ !isLibrary e).map (addressOf site.location)) := by
  have htopics : (p.topics.filter Run.isFilled).filter (fun e ↦ !isLibrary e) =
      p.topics.filter Run.isFilled := List.filter_eq_self.mpr fun t ht ↦ by
    rw [isLibrary_of_mem_topics (List.mem_filter.mp ht).1, Bool.not_false]
  rw [packageFindings_eq h, targets_append, targets_flatMap, packagePages, List.filter_append,
    List.filter_flatMap, htopics, List.map_append, List.map_append, List.map_flatMap,
    List.map_flatMap, targets_topics fun t ht ↦ (List.mem_filter.mp ht).1]
  refine List.Perm.append_right _ (List.Perm.flatMap_left _ fun l hl ↦ ?_)
  have hpages : (libraryPages site l).filter (fun e ↦ !isLibrary e) =
      (l.containers ++ l.topLevel).filter Entity.isPublic := by
    rw [libraryPages_eq hlocation (h l hl), List.filter_cons,
      isLibrary_of_mem_libraries (mem_navigableLibraries.mp hl).1, if_neg (by decide)]
    exact List.filter_eq_self.mpr fun e he ↦ by
      rw [isLibrary_of_mem_declarations (List.mem_filter.mp he).1, Bool.not_false]
  rw [hpages]
  have hshown := h l hl
  rw [hlocation] at hshown ⊢
  exact targets_groupOf hshown

theorem groups_packageFindings (hlocation : site.location = ofModel rules site.model)
    (h : ∀ l ∈ site.location.navigableLibraries p, IsShown site.location site.model l) :
    (groups (packageFindings (packageGroup site.location p))).map Item.address =
      ((packagePages site p).filter isLibrary).map (addressOf site.location) := by
  have htopics : (p.topics.filter Run.isFilled).filter isLibrary = [] :=
    List.filter_eq_nil_iff.mpr fun t ht ↦ by
      rw [isLibrary_of_mem_topics (List.mem_filter.mp ht).1]
      exact Bool.false_ne_true
  rw [packageFindings_eq h, groups_append, groups_flatMap, groups_items, packagePages,
    List.filter_append, List.filter_flatMap, htopics, List.append_nil, List.append_nil,
    List.map_flatMap, List.map_flatMap]
  refine List.flatMap_congr fun l hl ↦ ?_
  have hpages : (libraryPages site l).filter isLibrary = [l] := by
    rw [libraryPages_eq hlocation (h l hl), List.filter_cons,
      isLibrary_of_mem_libraries (mem_navigableLibraries.mp hl).1, if_pos rfl,
      List.filter_eq_nil_iff.mpr]
    intro e he
    rw [isLibrary_of_mem_declarations (List.mem_filter.mp he).1]
    exact Bool.false_ne_true
  rw [hpages, groups_libraryFindings, List.map_singleton, List.map_singleton, addressOf,
    (h l hl).url?]
  rfl

/-- **The navigation leads to the pages.** In a model that was read, whose libraries have names, the
pages of a run are the one of the site and one for each of some entities; the items of the
navigation lead to those of these that are no libraries, each as often as there are pages; and its
groups are those that are libraries, in their order. -/
theorem items_perm_pages {doc : Value} (hread : (Model.ofValue doc).1 = .ok site.model)
    (hlocation : site.location = ofModel rules site.model)
    (hnames : ∀ l ∈ localLibraries site.model, l.name ≠ []) :
    (pageJobs site).map some = some (rootJob site) :: (pageEntities site).map (entityJob? site) ∧
    ((targets (findings (render site.location site.model.localPackages))).map Item.address).Perm
      (((pageEntities site).filter fun e ↦ !isLibrary e).map (addressOf site.location)) ∧
    (groups (findings (render site.location site.model.localPackages))).map Item.address =
      ((pageEntities site).filter isLibrary).map (addressOf site.location) := by
  have hm := Model.isSound_of_ofValue hread
  have hshown : ∀ p ∈ site.model.localPackages, ∀ l ∈ site.location.navigableLibraries p,
      IsShown site.location site.model l :=
    fun p hp l hl ↦ isShown_of_navigable hm hnames hp hl
  have hlocal : site.model.localPackages.filter isLocal = site.model.localPackages :=
    List.filter_eq_self.mpr fun p hp ↦ (List.mem_filter.mp hp).2
  rw [findings_render, hlocal, List.flatMap_map]
  refine ⟨map_some_pageJobs site, ?_, ?_⟩
  · rw [targets_flatMap, pageEntities, List.filter_flatMap, List.map_flatMap, List.map_flatMap]
    exact List.Perm.flatMap_left _ fun p hp ↦ targets_packageFindings hlocation (hshown p hp)
  · rw [groups_flatMap, pageEntities, List.filter_flatMap, List.map_flatMap, List.map_flatMap]
    exact List.flatMap_congr fun p hp ↦ groups_packageFindings hlocation (hshown p hp)

/-! ### A small site -/

/-- A class that belongs to a topic. -/
def appleDoc : Value := .record
  [("name", .text "Apple"), ("kind", .text "class"), ("categories", .list [.text "Fruit"])]

/-- A package with this class alone. -/
def fruitDoc : Value := .record [("package", .record [("name", .text "fruit"),
  ("libraries", .list [.record [("name", .text "fruit"), ("containers", .list [appleDoc])]])])]

def apple : Container := { name := "Apple", kind := "class", categories := ["Fruit"] }

/-- The library of the class. -/
def fruitLibrary : Library :=
  { name := "fruit", kind := "library", dirName := "fruit", containers := [apple] }

def fruitTopic : Topic :=
  { name := "Fruit", kind := "category", entities := [.container 0 0 0] }

def fruitPackage : Package :=
  { name := "fruit", kind := "package", libraries := [fruitLibrary], topics := [fruitTopic] }

/-- What is read from the document, as a site. -/
def fruitSite : Site :=
  let model : Model := ⟨[fruitPackage], [], "fruit"⟩
  ⟨model, ofModel ⟨[], [], [], []⟩ model, .of [] [], [], 80, none⟩

/-- The navigation of the site has a group and two items, and so has the site these pages. -/
theorem items_perm_pages_fruit :
    (Model.ofValue fruitDoc).1 = .ok fruitSite.model ∧
    ((targets (findings (render fruitSite.location fruitSite.model.localPackages))).map
      Item.address).Perm
      (((pageEntities fruitSite).filter fun e ↦ !isLibrary e).map
        (addressOf fruitSite.location)) ∧
    (groups (findings (render fruitSite.location fruitSite.model.localPackages))).map
      Item.address = ((pageEntities fruitSite).filter isLibrary).map
        (addressOf fruitSite.location) := by
  have hread : (Model.ofValue fruitDoc).1 = .ok fruitSite.model := rfl
  have hnames : ∀ l ∈ localLibraries fruitSite.model, l.name ≠ [] := by
    intro l hl
    obtain rfl : l = ⟨.library 0 0, .library fruitLibrary, [.package fruitPackage]⟩ :=
      List.mem_singleton.mp hl
    exact List.cons_ne_nil _ _
  exact ⟨hread, (items_perm_pages hread rfl hnames).2⟩

/-- The pages of its entities. -/
example : (pageEntities fruitSite).map (addressOf fruitSite.location) =
    [("fruit".toList, some "/api/fruit/".toList), ("Apple".toList, some "/api/fruit/Apple".toList),
      ("Fruit".toList, some "/topics/Fruit".toList)] := by
  decide +kernel

end Navigation

end ApiSite
