import ApiSite.Doc.Resolution
import ApiSite.Proofs.Run.Report

/-!
# References lead to pages

A link is made by the address of an entity, which asks whether the declaration is public and its
library local and not internal. A page is written for a declaration of a library that can be
navigated to: one that is also public, that duplicates no other and that holds something public.
`exists_page_iff` compares the two for every entity of a model: the page that an address leads to is
written exactly if the library is shown (`IsVisible`).

For references in documentation the rest of the way is short. What a reference means is an entity of
the model, wherever the search for its name ends (`Entity.IsIn.of_lookUp?`), and it becomes a link
only if its library is public, too. A library with a public declaration is not empty. So every link
to a declaration leads to a page that is written, as long as its library is no duplicate of another
one (`references_lead_to_pages`).
-/

set_option autoImplicit false

namespace ApiSite.Run

open Model Doc Location

variable {site : Site} {p l e x target : Entity} {url href text : Text}

/-! ### Which addresses have pages -/

/-- The entity on whose page an entity is shown. -/
def shownOn? (e : Entity) : Option Entity :=
  match e.node with
  | .member _ => e.parent?
  | _ => some e

/-- A library that overviews and navigation show, if the site has a place for it at all. -/
structure IsVisible (loc : Location) (l : Entity) : Prop where
  isPublic : l.isPublic = true
  isNoDuplicate : loc.isDuplicate l.name = false
  isFilled : isEmptyLibrary l = false

/-- The library of a local package that is not internal is navigated to exactly if it is shown. -/
theorem mem_navigableLibraries_iff_isVisible {loc : Location} (hl : l ∈ p.libraries)
    (hinternal : loc.isInternal l.name = false) :
    l ∈ loc.navigableLibraries p ↔ IsVisible loc l := by
  rw [mem_navigableLibraries]
  exact ⟨fun ⟨_, hpublic, _, hduplicate, hfilled⟩ ↦ ⟨hpublic, hduplicate, hfilled⟩,
    fun h ↦ ⟨hl, h.isPublic, hinternal, h.isNoDuplicate, h.isFilled⟩⟩

/-- A library with a directory lies in a local package and is not internal. -/
theorem of_isSome_libraryDir? {m : Model} {loc : Location} (hp : p ∈ m.entities)
    (hl : l ∈ p.libraries) (hdir : (loc.libraryDir? l).isSome) :
    p ∈ m.localPackages ∧ loc.isInternal l.name = false := by
  rw [libraryDir?, Entity.parent?_of_mem_libraries hl] at hdir
  split at hdir
  · next hcondition =>
    obtain ⟨hlocal, hinternal⟩ := Bool.and_eq_true_iff.mp hcondition
    exact ⟨List.mem_filter.mpr ⟨hp, hlocal⟩, (Bool.not_eq_true' _).mp hinternal⟩
  · cases hdir

theorem isSome_libraryDir?_of_url? {loc : Location} (hl : l ∈ p.libraries)
    (hurl : loc.url? l = some url) : (loc.libraryDir? l).isSome := by
  obtain ⟨lib, hnode⟩ := Entity.exists_node_of_mem_libraries hl
  rw [url?, hnode] at hurl
  simp only [pageUrl?, hnode] at hurl
  obtain ⟨dir, hdir, -⟩ := Option.map_eq_some_iff.mp hurl
  obtain ⟨dir, hdir, -⟩ := Option.bind_eq_some_iff.mp hdir
  exact Option.isSome_of_eq_some hdir

theorem isSome_libraryDir?_of_pageFile? {loc : Location} {file : Text}
    (he : e ∈ l.containers ++ l.topLevel) (hfile : loc.pageFile? e = some file) :
    e.isPublic = true ∧ (loc.libraryDir? l).isSome := by
  rw [pageFile?, Entity.library?_of_mem_declarations he] at hfile
  cases hpublic : e.isPublic with
  | false =>
    rw [hpublic] at hfile
    cases hfile
  | true =>
    rw [hpublic] at hfile
    obtain ⟨dir, hdir, -⟩ := Option.bind_eq_some_iff.mp hfile
    exact ⟨rfl, Option.isSome_of_eq_some hdir⟩

/-- What has a page and lies in a library is found by way of that library. -/
theorem isVisible_of_mem_pageEntities (he : e ∈ pageEntities site)
    (hlibrary : e.library? = some l) : IsVisible site.location l := by
  obtain ⟨p, -, ⟨l', hl', -, hcase⟩ | ⟨ht, -⟩⟩ := mem_pageEntities.mp he
  · obtain ⟨hmem, hpublic, -, hduplicate, hfilled⟩ := mem_navigableLibraries.mp hl'
    have heq : e.library? = some l' := by
      rcases hcase with rfl | ⟨he, -⟩
      · exact Entity.library?_of_mem_libraries hmem
      · exact Entity.library?_of_mem_declarations he
    obtain rfl := Option.some.inj (heq.symm.trans hlibrary)
    exact ⟨hpublic, hduplicate, hfilled⟩
  · obtain ⟨t, hnode⟩ := Entity.exists_node_of_mem_topics ht
    rw [Entity.library?, hnode] at hlibrary
    cases hlibrary

theorem library_mem_pageEntities_iff (hp : p ∈ site.model.entities) (hl : l ∈ p.libraries)
    (hurl : site.location.url? l = some url) :
    l ∈ pageEntities site ↔ IsVisible site.location l := by
  obtain ⟨hlocal, hinternal⟩ := of_isSome_libraryDir? hp hl (isSome_libraryDir?_of_url? hl hurl)
  refine ⟨fun h ↦ isVisible_of_mem_pageEntities h (Entity.library?_of_mem_libraries hl),
    fun h ↦ ?_⟩
  have hnavigable := (mem_navigableLibraries_iff_isVisible hl hinternal).mpr h
  obtain ⟨path, hpath⟩ := exists_filePath?_of_navigable hlocal hnavigable
  exact mem_pageEntities.mpr
    ⟨p, hlocal, Or.inl ⟨l, hnavigable, Option.isSome_of_eq_some hpath, Or.inl rfl⟩⟩

theorem declaration_mem_pageEntities_iff {file : Text} (hp : p ∈ site.model.entities)
    (hl : l ∈ p.libraries) (he : e ∈ l.containers ++ l.topLevel)
    (hfile : site.location.pageFile? e = some file) :
    e ∈ pageEntities site ↔ IsVisible site.location l := by
  obtain ⟨hlocal, hinternal⟩ :=
    of_isSome_libraryDir? hp hl (isSome_libraryDir?_of_pageFile? he hfile).2
  refine ⟨fun h ↦ isVisible_of_mem_pageEntities h (Entity.library?_of_mem_declarations he),
    fun h ↦ ?_⟩
  have hnavigable := (mem_navigableLibraries_iff_isVisible hl hinternal).mpr h
  obtain ⟨path, hpath⟩ := exists_filePath?_of_navigable hlocal hnavigable
  have hpage : (site.location.filePath? e).isSome := by
    rw [filePath?_declaration he, hfile]
    rfl
  exact mem_pageEntities.mpr
    ⟨p, hlocal, Or.inl ⟨l, hnavigable, Option.isSome_of_eq_some hpath, Or.inr ⟨he, hpage⟩⟩⟩

/-- A container, a top-level element or a member. -/
def isDeclared (e : Entity) : Bool :=
  match e.node with
  | .container _ | .topLevel _ | .member _ => true
  | _ => false

/-- What the address of a declaration or a member leads to: the page of a declaration of its
library. -/
structure LeadsTo (m : Model) (loc : Location) (x l page : Entity) (file : Text) : Prop where
  shownOn : shownOn? x = some page
  library : x.library? = some l
  mem : page ∈ l.containers ++ l.topLevel
  exists_package : ∃ p ∈ m.entities, l ∈ p.libraries
  pageFile : loc.pageFile? page = some file

theorem exists_leadsTo {m : Model} {loc : Location} (hx : x.IsIn m)
    (hdeclared : isDeclared x = true) (hurl : loc.url? x = some url) :
    ∃ l page file, LeadsTo m loc x l page file ∧ url = '/' :: file := by
  have hdeclaration {p l : Entity} (hp : p ∈ m.entities) (hl : l ∈ p.libraries)
      (he : x ∈ l.containers ++ l.topLevel) :
      ∃ l page file, LeadsTo m loc x l page file ∧ url = '/' :: file := by
    rw [url?_declaration he] at hurl
    obtain ⟨file, hfile, rfl⟩ := Option.map_eq_some_iff.mp hurl
    have hshown : shownOn? x = some x := by
      rcases Entity.exists_node_of_mem_declarations he with ⟨c, hnode⟩ | ⟨t, hnode⟩ <;>
        rw [shownOn?, hnode]
    exact ⟨l, x, file,
      ⟨hshown, Entity.library?_of_mem_declarations he, he, ⟨p, hp, hl⟩, hfile⟩, rfl⟩
  cases hx with
  | package hp =>
    obtain ⟨pkg, hnode⟩ := Entity.exists_node_of_mem_entities hp
    simp [isDeclared, hnode] at hdeclared
  | topic hp ht =>
    obtain ⟨t, hnode⟩ := Entity.exists_node_of_mem_topics ht
    simp [isDeclared, hnode] at hdeclared
  | library hp hl =>
    obtain ⟨lib, hnode⟩ := Entity.exists_node_of_mem_libraries hl
    simp [isDeclared, hnode] at hdeclared
  | container hp hl hc => exact hdeclaration hp hl (List.mem_append_left _ hc)
  | topLevel hp hl ht => exact hdeclaration hp hl (List.mem_append_right _ ht)
  | @member p l c _ hp hl hc hx =>
    have he : c ∈ l.containers ++ l.topLevel := List.mem_append_left _ hc
    have hparent := Entity.parent?_of_mem_members hx
    obtain ⟨member, hnode⟩ := Entity.exists_node_of_mem_members hx
    obtain ⟨cont, hcont⟩ := Entity.exists_node_of_mem_containers hc
    have hpage : loc.url? c = some url := by
      rw [url?, hnode] at hurl
      simp only [hparent, Option.bind_some] at hurl
      rw [url?, hcont]
      exact hurl
    rw [url?_declaration he] at hpage
    obtain ⟨file, hfile, rfl⟩ := Option.map_eq_some_iff.mp hpage
    have hshown : shownOn? x = some c := by rw [shownOn?, hnode, hparent]
    exact ⟨l, c, file, ⟨hshown, Entity.library?_of_mem_members hc hx, he, ⟨p, hp, hl⟩, hfile⟩, rfl⟩

theorem LeadsTo.mem_pageEntities_iff {page : Entity} {file : Text}
    (h : LeadsTo site.model site.location x l page file) :
    page ∈ pageEntities site ↔ IsVisible site.location l := by
  obtain ⟨p, hp, hl⟩ := h.exists_package
  exact declaration_mem_pageEntities_iff hp hl h.mem h.pageFile

/-- **Addresses and pages.** The address of what lies in a library leads to a page that is written
exactly if the library is shown. -/
theorem exists_page_iff (hx : x.IsIn site.model) (hurl : site.location.url? x = some url)
    (hlibrary : x.library? = some l) : ∃ page, shownOn? x = some page ∧
      site.location.url? page = some url ∧
      (page ∈ pageEntities site ↔ IsVisible site.location l) := by
  cases hdeclared : isDeclared x with
  | true =>
    obtain ⟨l', page, file, hleads, rfl⟩ := exists_leadsTo hx hdeclared hurl
    obtain rfl := Option.some.inj (hleads.library.symm.trans hlibrary)
    refine ⟨page, hleads.shownOn, ?_, hleads.mem_pageEntities_iff⟩
    rw [url?_declaration hleads.mem, hleads.pageFile]
    rfl
  | false =>
    -- Of what lies in a library, only the library itself is not declared there.
    obtain ⟨lib, hnode⟩ : ∃ lib, x.node = .library lib := by
      unfold isDeclared at hdeclared
      unfold Entity.library? at hlibrary
      split at hlibrary <;> simp_all
    obtain ⟨p, hp, hl⟩ := hx.of_library hnode
    obtain rfl := Option.some.inj ((Entity.library?_of_mem_libraries hl).symm.trans hlibrary)
    refine ⟨x, ?_, hurl, library_mem_pageEntities_iff hp hl hurl⟩
    rw [shownOn?, hnode]

/-! ### References -/

/-- A reference to what has an address becomes a link to it exactly if its library is public. -/
theorem elementFor_eq_link_iff {loc : Location}
    (hfound : lookUp? e (Reference.parse text) = some target)
    (hlink : loc.link? target = some href) :
    elementFor loc e text = .ok (some ((Resolution.link href).element text)) ↔
      text.isEmpty = false ∧ isReachable target = true := by
  have hresolve : resolve loc e (Reference.parse text) =
      .ok (if isReachable target then .link href else .code) := by
    rw [resolve, hfound]
    simp only [resolveTarget, hlink]
    cases isReachable target <;> rfl
  rw [elementFor, hresolve]
  cases text.isEmpty with
  | true => simp
  | false =>
    cases isReachable target <;> simp [Except.map, Resolution.element, Markup.Element.ofText]

/-- What is public and declared in a library is on a page only if something in the library is
public. -/
theorem LeadsTo.isEmptyLibrary_eq_false {m : Model} {loc : Location} {page : Entity} {file : Text}
    (h : LeadsTo m loc x l page file) : isEmptyLibrary l = false := by
  obtain ⟨p, hp, hl⟩ := h.exists_package
  obtain ⟨hpublic, hdir⟩ := isSome_libraryDir?_of_pageFile? h.mem h.pageFile
  exact Run.isEmptyLibrary_eq_false
    (mem_localLibraries_of_mem (of_isSome_libraryDir? hp hl hdir).1 hl) h.mem hpublic

/-- **References lead to pages.** Where a reference becomes a link to the address of the
declaration or member that it means, and the library of this is no duplicate of another one, a run
writes the page that the link leads to. -/
theorem references_lead_to_pages (he : e ∈ site.model.allEntities)
    (hfound : lookUp? e (Reference.parse text) = some target)
    (hlink : site.location.link? target = some href)
    (helement : elementFor site.location e text =
      .ok (some ((Resolution.link href).element text)))
    (hdeclared : isDeclared target = true)
    (hown : ∀ l, target.library? = some l → site.location.isDuplicate l.name = false) :
    ∃ (page : Entity) (file : Text), shownOn? target = some page ∧
      site.location.filePath? page = some (file ++ ".md".toList) ∧
      href = withAnchor ('/' :: file) (anchor? target) ∧
      file ++ ".md".toList ∈ writtenPaths site := by
  have hin : target.IsIn site.model :=
    (Entity.isIn_iff_mem_allEntities.mpr he).of_lookUp? hfound
  have hreach := ((elementFor_eq_link_iff hfound hlink).mp helement).2
  rw [Location.link?] at hlink
  split at hlink
  · obtain ⟨url, hurl, rfl⟩ := Option.map_eq_some_iff.mp hlink
    obtain ⟨l, page, file, hleads, rfl⟩ := exists_leadsTo hin hdeclared hurl
    rw [isReachable, hleads.library] at hreach
    have hpublic : l.isPublic = true := (Bool.and_eq_true_iff.mp hreach).2
    have hpage : page ∈ pageEntities site := hleads.mem_pageEntities_iff.mpr
      ⟨hpublic, hown l hleads.library, hleads.isEmptyLibrary_eq_false⟩
    have hpath : site.location.filePath? page = some (file ++ ".md".toList) := by
      rw [filePath?_declaration hleads.mem, hleads.pageFile]
      rfl
    exact ⟨page, file, hleads.shownOn, hpath, rfl,
      mem_map_path_pageJobs.mpr (Or.inr ⟨page, hpage, hpath⟩)⟩
  · cases hlink

/-! ### A reference to a method -/

/-- The class `Apple` with the method `core`. -/
def appleWithCore : Container :=
  { name := "Apple", kind := "class", members := [{ name := "core", kind := "method" }] }

def coreLibrary : Library := { name := "fruit", dirName := "fruit", containers := [appleWithCore] }

def corePackage : Package := { name := "fruit", libraries := [coreLibrary] }

/-- A site of this class alone. -/
def coreSite : Site :=
  let model : Model := ⟨[corePackage], [], []⟩
  ⟨model, ofModel ⟨[], [], [], []⟩ model, .of [] [], [], 80, none⟩

/-- The class, and its method. -/
def coreEntities : Entity × Entity :=
  let outer : List Node := [.library coreLibrary, .package corePackage]
  (⟨.container 0 0 0, .container appleWithCore, outer⟩,
    ⟨.member 0 0 0 0, .member { name := "core", kind := "method" },
      .container appleWithCore :: outer⟩)

theorem references_lead_to_pages_core :
    coreEntities.1 ∈ coreSite.model.allEntities ∧
    lookUp? coreEntities.1 (Reference.parse "core") = some coreEntities.2 ∧
    coreSite.location.link? coreEntities.2 = some "/api/fruit/Apple#core" ∧
    elementFor coreSite.location coreEntities.1 "core" =
      .ok (some ((Resolution.link "/api/fruit/Apple#core").element "core")) ∧
    isDeclared coreEntities.2 = true ∧
    (∀ l, coreEntities.2.library? = some l → coreSite.location.isDuplicate l.name = false) ∧
    ∃ (page : Entity) (file : Text), shownOn? coreEntities.2 = some page ∧
      coreSite.location.filePath? page = some (file ++ ".md".toList) ∧
      "/api/fruit/Apple#core".toList = withAnchor ('/' :: file) (anchor? coreEntities.2) ∧
      file ++ ".md".toList ∈ writtenPaths coreSite := by
  have he : coreEntities.1 ∈ coreSite.model.allEntities := by
    rw [← Entity.isIn_iff_mem_allEntities]
    exact .container List.mem_cons_self List.mem_cons_self List.mem_cons_self
  have hfound : lookUp? coreEntities.1 (Reference.parse "core") = some coreEntities.2 := rfl
  have hlink : coreSite.location.link? coreEntities.2 = some "/api/fruit/Apple#core".toList := by
    decide +kernel
  have helement : elementFor coreSite.location coreEntities.1 "core" =
      .ok (some ((Resolution.link "/api/fruit/Apple#core").element "core")) :=
    (elementFor_eq_link_iff hfound hlink).mpr ⟨rfl, rfl⟩
  have hown (l : Entity) (hl : coreEntities.2.library? = some l) :
      coreSite.location.isDuplicate l.name = false := by
    obtain rfl := Option.some.inj hl
    rfl
  exact ⟨he, hfound, hlink, helement, rfl, hown,
    references_lead_to_pages he hfound hlink helement rfl hown⟩

end ApiSite.Run
