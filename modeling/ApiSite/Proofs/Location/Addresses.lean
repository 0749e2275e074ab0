import ApiSite.Proofs.Location.Files

/-!
# Files and addresses of pages

A page has a file and an address, and both are put together from the same parts by different tests:
a file asks whether its library duplicates another one, an address whether its directory has a name.
Where there is a file there is an address (`isAddressed_of_filePath?`), if only the libraries ask
for directories, which they do as soon as they have names (`AsksForDirectories`). The address of a
member goes on from that of its container (`link?_member`). What is in a library has a file exactly
if it is public and its library is not internal, and has an address exactly if it has a file. So
files and addresses agree in the whole model (`files_match_addresses`).

A library that duplicates another one by its name has no page, and gets the directory of the last
owner of the other name (`find?_dirNames_duplicate`). Under the usual prefixes what is duplicated
duplicates nothing (`isDuplicate_of_usual`), so this owner is there whenever the other name is that
of a public library: what is in the duplicate has its address in the directory of the other library
(`duplicates_lead_to_canonical`).
-/

set_option autoImplicit false

namespace ApiSite.Location

open Model

variable {rules : Settings.LibraryRules} {m : Model} {loc : Location} {p l c d e x : Entity}
  {name path : Text}

/-! ### Libraries of local packages -/

theorem mem_localLibraries_of_mem (hp : p ∈ m.localPackages) (hl : l ∈ p.libraries) :
    l ∈ localLibraries m :=
  List.mem_flatMap.mpr ⟨p, hp, hl⟩

theorem isLocal_parent_of_mem (hl : l ∈ localLibraries m) : l.parent?.any isLocal = true := by
  obtain ⟨p, hp, hl⟩ := List.mem_flatMap.mp hl
  obtain ⟨hp, hlocal⟩ := List.mem_filter.mp hp
  obtain ⟨i, pkg, -, rfl⟩ := mem_entities.mp hp
  obtain ⟨j, lib, -, rfl⟩ := mem_libraries.mp hl
  exact hlocal

/-- A library of a local package has a directory, unless it is internal. -/
theorem libraryDir?_of_mem (hl : l ∈ localLibraries m) :
    loc.libraryDir? l = if loc.isInternal l.name then none else some (loc.dirName l) := by
  rw [libraryDir?, isLocal_parent_of_mem hl, Bool.true_and]
  cases loc.isInternal l.name <;> rfl

/-- A library that overviews and navigation show is public, has a place of its own, and holds
something public. -/
theorem mem_navigableLibraries : l ∈ loc.navigableLibraries p ↔
    l ∈ p.libraries ∧ l.isPublic = true ∧ loc.isInternal l.name = false ∧
      loc.isDuplicate l.name = false ∧ isEmptyLibrary l = false := by
  rw [navigableLibraries, List.mem_filter, (publicLibraries_perm p).mem_iff, List.mem_filter]
  simp only [Bool.and_eq_true, Bool.not_eq_true', and_assoc]

/-! ### Declarations -/

theorem pageFile?_of_mem (hl : l ∈ localLibraries m) (he : e ∈ l.containers ++ l.topLevel) :
    loc.pageFile? e = if e.isPublic && !loc.isInternal l.name then
      (find? loc.fileNames e.place).map fun file ↦ "api/" ++ loc.dirName l ++ "/" ++ file
    else none := by
  rw [pageFile?, Entity.library?_of_mem_declarations he]
  cases e.isPublic with
  | false => rfl
  | true =>
    simp only [if_true, Option.bind_eq_bind, Option.bind_some, libraryDir?_of_mem hl]
    cases loc.isInternal l.name with
    | true => rfl
    | false =>
      simp only [Bool.false_eq_true, if_false, Option.bind_some]
      cases find? loc.fileNames e.place <;> rfl

/-- A declaration with a page is public. -/
theorem isPublic_of_pageFile? (h : (loc.pageFile? e).isSome) : e.isPublic = true := by
  rw [pageFile?] at h
  split at h
  · next hpublic => exact hpublic
  · cases h

theorem filePath?_declaration (he : e ∈ l.containers ++ l.topLevel) :
    loc.filePath? e = (loc.pageFile? e).map (· ++ (".md" : Text)) := by
  rcases Entity.exists_node_of_mem_declarations he with ⟨c, hnode⟩ | ⟨t, hnode⟩ <;>
    simp only [filePath?, hnode]

theorem url?_declaration (he : e ∈ l.containers ++ l.topLevel) :
    loc.url? e = (loc.pageFile? e).map ('/' :: ·) := by
  rcases Entity.exists_node_of_mem_declarations he with ⟨c, hnode⟩ | ⟨t, hnode⟩ <;>
    simp only [url?, pageUrl?, hnode]

/-! ### Topics -/

theorem filePath?_topic (he : e ∈ p.topics) :
    loc.filePath? e = some ("topics/" ++ Naming.fileName e.name ++ ".md") := by
  obtain ⟨t, hnode⟩ := Entity.exists_node_of_mem_topics he
  rw [filePath?, hnode]

theorem url?_topic (he : e ∈ p.topics) :
    loc.url? e = some ("/topics/" ++ Naming.fileName e.name) := by
  obtain ⟨t, hnode⟩ := Entity.exists_node_of_mem_topics he
  rw [url?, hnode]
  simp only [pageUrl?, hnode]

/-! ### Directories with names -/

theorem plainDirName_ne_nil {dir : Text} (hdir : dir ≠ []) : plainDirName rules dir ≠ [] := by
  obtain ⟨c, rest, rfl⟩ := List.exists_cons_of_ne_nil hdir
  have hdot : ("." : Text) = ['.'] := rfl
  unfold plainDirName
  split
  · rw [hdot, Text.replace_singleton, List.flatMap_cons]
    split <;> simp
  · exact hdir

/-- A library that asks for a directory has one with a name. -/
theorem dirName_ne_nil (hwanted : wantedDirName l ≠ []) : loc.dirName l ≠ [] := by
  have hnonempty (t : Option Text) : t.bind nonempty ≠ some [] := by
    cases t with
    | none => simp
    | some t => cases t <;> simp [nonempty]
  unfold dirName
  cases hown : (find? loc.dirNames l.place).bind nonempty with
  | some dir =>
    rintro rfl
    exact hnonempty _ hown
  | none =>
    cases hname : (findLast? loc.dirNamesByName l.name).bind nonempty with
    | some dir =>
      rintro rfl
      exact hnonempty _ hname
    | none => exact plainDirName_ne_nil hwanted

/-- The libraries with names ask for directories. A library for which none is given asks for one
that is made from its name. -/
def AsksForDirectories (m : Model) : Prop :=
  ∀ p ∈ m.packages, ∀ l ∈ p.libraries, l.name ≠ [] → l.dirName ≠ []

theorem asksForDirectories_of_isSound (hm : m.IsSound) : AsksForDirectories m :=
  fun p hp l hl ↦ (hm p hp l hl).dirName

theorem wantedDirName_ne_nil (hm : AsksForDirectories m) (hp : p ∈ m.entities)
    (hl : l ∈ p.libraries) (hname : l.name ≠ []) : wantedDirName l ≠ [] := by
  obtain ⟨pkg, hpkg, hnode⟩ := Entity.exists_mem_packages hp
  obtain ⟨lib, hlib, hlnode⟩ := Entity.exists_mem_libraries hl hnode
  have hinfo : l.name = lib.name := by rw [Entity.name, Entity.info, hlnode, Node.info]
  rw [wantedDirName, hlnode]
  exact hm pkg hpkg lib hlib (hinfo ▸ hname)

/-- The address of the directory of a library. -/
def libraryUrl (loc : Location) (l : Entity) : Text := "/api/" ++ loc.dirName l ++ "/"

/-! ### Files with their addresses -/

/-- What the file of a page has behind what the address has too. -/
def pageEnding (e : Entity) : Text :=
  match e.node with
  | .package _ | .library _ => "index.md"
  | _ => ".md"

/-- A page with this file has the address that belongs to it. -/
def IsAddressed (loc : Location) (e : Entity) (path : Text) : Prop :=
  ∃ address, loc.url? e = some ('/' :: address) ∧ path = address ++ pageEnding e

theorem isAddressed_library (hl : l ∈ p.libraries) (hwanted : wantedDirName l ≠ [])
    (hpath : loc.filePath? l = some path) : IsAddressed loc l path := by
  obtain ⟨lib, hnode⟩ := Entity.exists_node_of_mem_libraries hl
  simp only [filePath?, hnode] at hpath
  split at hpath
  · cases hpath
  · obtain ⟨dir, hdir, rfl⟩ := Option.map_eq_some_iff.mp hpath
    obtain rfl := dirName_of_libraryDir? hdir
    have hnonempty : nonempty (loc.dirName l) = some (loc.dirName l) := by
      rw [nonempty, if_neg (by simpa using dirName_ne_nil hwanted)]
    refine ⟨"api/" ++ loc.dirName l ++ "/", ?_, ?_⟩
    · simp only [url?, pageUrl?, hnode, hdir, Option.bind_some, hnonempty, Option.map_some]
      rfl
    · rw [pageEnding, hnode]
      simp

theorem isAddressed_declaration (he : e ∈ l.containers ++ l.topLevel)
    (hpath : loc.filePath? e = some path) : IsAddressed loc e path := by
  rw [filePath?_declaration he] at hpath
  obtain ⟨file, hfile, rfl⟩ := Option.map_eq_some_iff.mp hpath
  refine ⟨file, by rw [url?_declaration he, hfile, Option.map_some], ?_⟩
  rcases Entity.exists_node_of_mem_declarations he with ⟨c, hnode⟩ | ⟨t, hnode⟩ <;>
    rw [pageEnding, hnode]

/-- Where an entity of a model has a file it has the address that belongs to it. -/
theorem isAddressed_of_filePath? (hm : AsksForDirectories m)
    (hnames : ∀ p ∈ m.packages, ∀ l ∈ p.libraries, l.name ≠ []) (he : e.IsIn m)
    (hpath : loc.filePath? e = some path) : IsAddressed loc e path := by
  cases he with
  | package hp =>
    obtain ⟨pkg, hnode⟩ := Entity.exists_node_of_mem_entities hp
    simp only [filePath?, hnode, Option.some.injEq] at hpath
    refine ⟨"api/", ?_, ?_⟩
    · simp only [url?, pageUrl?, hnode]
      rfl
    · rw [pageEnding, hnode, ← hpath]
      rfl
  | topic hp ht =>
    obtain ⟨t, hnode⟩ := Entity.exists_node_of_mem_topics ht
    rw [filePath?_topic ht] at hpath
    refine ⟨"topics/" ++ Naming.fileName e.name, by rw [url?_topic ht]; rfl, ?_⟩
    rw [pageEnding, hnode, ← Option.some.inj hpath]
  | @library p _ hp hl =>
    obtain ⟨pkg, hpkg, hnode⟩ := Entity.exists_mem_packages hp
    obtain ⟨lib, hlib, hlnode⟩ := Entity.exists_mem_libraries hl hnode
    have hname : e.name ≠ [] := by
      rw [Entity.name, Entity.info, hlnode, Node.info]
      exact hnames pkg hpkg lib hlib
    exact isAddressed_library hl (wantedDirName_ne_nil hm hp hl hname) hpath
  | container hp hl hc => exact isAddressed_declaration (List.mem_append_left _ hc) hpath
  | topLevel hp hl ht => exact isAddressed_declaration (List.mem_append_right _ ht) hpath
  | member hp hl hc hx =>
    obtain ⟨member, hnode⟩ := Entity.exists_node_of_mem_members hx
    simp only [filePath?, hnode, reduceCtorEq] at hpath

/-- A public member of a container with a page is on that page, at its anchor if it has one. -/
theorem link?_member (hc : c ∈ l.containers) (hx : x ∈ c.members) (hpublic : x.isPublic = true)
    (hpage : (loc.filePath? c).isSome) : ∃ link, loc.link? c = some link ∧
      loc.link? x = some (if memberAnchor x = [] then link else link ++ '#' :: memberAnchor x) := by
  have he : c ∈ l.containers ++ l.topLevel := List.mem_append_left _ hc
  rw [filePath?_declaration he, Option.isSome_map] at hpage
  obtain ⟨file, hfile⟩ := Option.isSome_iff_exists.mp hpage
  obtain ⟨cont, hcnode⟩ := Entity.exists_node_of_mem_containers hc
  obtain ⟨member, hxnode⟩ := Entity.exists_node_of_mem_members hx
  have hcpublic : c.isPublic = true := isPublic_of_pageFile? hpage
  have hcurl : loc.pageUrl? c = some ('/' :: file) := by
    simp only [pageUrl?, hcnode, hfile, Option.map_some]
  refine ⟨'/' :: file, ?_, ?_⟩
  · rw [link?, if_pos hcpublic, url?, hcnode]
    simp only [hcurl, anchor?, hcnode, Option.map_some, withAnchor]
  · rw [link?, if_pos hpublic, url?, hxnode, anchor?, hxnode]
    simp only [Entity.parent?_of_mem_members hx, Option.bind_some, hcurl, Option.map_some]
    cases memberAnchor x <;> rfl

/-- **Files and addresses agree.** In a model whose libraries have names, and however libraries are
told apart, an entity with a file has an address, and these differ only in the slash in front of the
address and the ending of the file; and the address of a public member of a container with a page is
that of the container, with the anchor of the member behind it if this is not empty. -/
theorem files_match_addresses (rules : Settings.LibraryRules) (hm : AsksForDirectories m)
    (hnames : ∀ p ∈ m.packages, ∀ l ∈ p.libraries, l.name ≠ []) :
    (∀ e, e.IsIn m → ∀ path, (ofModel rules m).filePath? e = some path →
      ∃ address, (ofModel rules m).url? e = some ('/' :: address) ∧
        path = address ++ pageEnding e) ∧
    ∀ c, c.IsIn m → ∀ x ∈ c.members, x.isPublic = true →
      ((ofModel rules m).filePath? c).isSome →
        ∃ link, (ofModel rules m).link? c = some link ∧
          (ofModel rules m).link? x =
            some (if memberAnchor x = [] then link else link ++ '#' :: memberAnchor x) := by
  refine ⟨fun e he path hpath ↦ isAddressed_of_filePath? hm hnames he hpath,
    fun c hc x hx hpublic hpage ↦ ?_⟩
  obtain ⟨cont, hnode⟩ := Entity.exists_container_of_mem_members hx
  obtain ⟨p, -, l, -, hc⟩ := hc.of_container hnode
  exact link?_member hc hx hpublic hpage

/-! ### A development kit -/

def equalsOperator : Member := { name := "==", kind := "operator" }

def objectClass : Container := { name := "Object", kind := "class", members := [equalsOperator] }

/-- A library with this class. -/
def kitLibrary (name : Text) : Library :=
  { name := name, kind := "library", dirName := dirNameOf name, containers := [objectClass] }

def kitPackage (names : List Text) : Package :=
  { name := "sdk", kind := "package", libraries := names.map kitLibrary }

/-- A package of libraries with these names, all of which hold the class. -/
def kit (names : List Text) : Model := ⟨[kitPackage names], [], "sdk"⟩

theorem asksForDirectories_kit (names : List Text) : AsksForDirectories (kit names) := by
  intro p hp l hl hname
  obtain rfl := List.mem_singleton.mp hp
  obtain ⟨name, -, rfl⟩ := List.mem_map.mp hl
  exact mt List.map_eq_nil_iff.mp hname

/-- The library with this index. -/
def kitEntity (names : List Text) (i : Nat) (name : Text) : Entity :=
  ⟨.library 0 i, .library (kitLibrary name), [.package (kitPackage names)]⟩

/-- The class in this library. -/
def objectEntity (names : List Text) (i : Nat) (name : Text) : Entity :=
  (kitEntity names i name).within (.container 0 i 0) (.container objectClass)

/-- The operator of the class in the first library. -/
def equalsEntity (names : List Text) (name : Text) : Entity :=
  (objectEntity names 0 name).within (.member 0 0 0 0) (.member equalsOperator)

/-- The class of a single library has a file, the address that belongs to it, and its operator
there. -/
theorem files_match_addresses_kit :
    (∀ p ∈ (kit ["core"]).packages, ∀ l ∈ p.libraries, l.name ≠ []) ∧
    (∃ address, (ofModel ⟨[], [], [], []⟩ (kit ["core"])).url? (objectEntity ["core"] 0 "core") =
        some ('/' :: address) ∧ "api/core/Object.md" = address ++ (".md" : Text)) ∧
    ∃ link, (ofModel ⟨[], [], [], []⟩ (kit ["core"])).link? (objectEntity ["core"] 0 "core") =
        some link ∧
      (ofModel ⟨[], [], [], []⟩ (kit ["core"])).link? (equalsEntity ["core"] "core") =
        some (link ++ "#operator-equals") := by
  have hnames : ∀ p ∈ (kit ["core"]).packages, ∀ l ∈ p.libraries, l.name ≠ [] := by decide
  have hin : (objectEntity ["core"] 0 "core").IsIn (kit ["core"]) :=
    .container (p := ⟨.package 0, .package (kitPackage ["core"]), []⟩)
      (l := kitEntity ["core"] 0 "core") List.mem_cons_self List.mem_cons_self List.mem_cons_self
  have hpath : (ofModel ⟨[], [], [], []⟩ (kit ["core"])).filePath?
      (objectEntity ["core"] 0 "core") = some "api/core/Object.md" := by decide +kernel
  obtain ⟨haddress, hlink⟩ :=
    files_match_addresses ⟨[], [], [], []⟩ (asksForDirectories_kit ["core"]) hnames
  exact ⟨hnames, haddress _ hin _ hpath,
    hlink _ hin (equalsEntity ["core"] "core") List.mem_cons_self rfl (hpath ▸ rfl)⟩

/-! ### Duplicates -/

/-- The rules of a project that says nothing about its libraries. -/
def usualRules : Settings.LibraryRules :=
  Settings.default.libraryRules.toOption.getD ⟨[], [], [], []⟩

theorem libraryRules_default : Settings.default.libraryRules = .ok usualRules := rfl

theorem duplicatePrefixes_usual :
    usualRules.duplicatePrefixes = [("dart.".toList, "dart:".toList), ("dart.dom.", "dart:")] := rfl

/-- Under the usual prefixes a library duplicates one whose name has a colon for the first dot. -/
theorem startsWith_of_canonicalName
    (husual : loc.rules.duplicatePrefixes = usualRules.duplicatePrefixes)
    (hname : loc.canonicalName d.name = some name) : ∃ rest, name = "dart:" ++ rest := by
  rw [canonicalName, canonicalNameIn, husual, duplicatePrefixes_usual] at hname
  obtain ⟨⟨inner, canonical⟩, hprefix, hname⟩ := List.exists_of_findSome?_eq_some hname
  obtain ⟨rest, -, hname⟩ := Option.bind_eq_some_iff.mp hname
  have hcanonical : canonical = "dart:" := by
    simp only [List.mem_cons, Prod.mk.injEq, List.not_mem_nil, or_false] at hprefix
    rcases hprefix with ⟨-, rfl⟩ | ⟨-, rfl⟩ <;> rfl
  simp only at hname
  split at hname
  · exact ⟨rest, by rw [← Option.some.inj hname, hcanonical]⟩
  · cases hname

/-- Under the usual prefixes what is duplicated is itself no duplicate. -/
theorem isDuplicate_of_usual
    (husual : loc.rules.duplicatePrefixes = usualRules.duplicatePrefixes)
    (hname : loc.canonicalName d.name = some name) : loc.isDuplicate name = false := by
  obtain ⟨rest, rfl⟩ := startsWith_of_canonicalName husual hname
  rw [isDuplicate, canonicalName, canonicalNameIn, husual, duplicatePrefixes_usual]
  rfl

/-- An owner with a name is assigned a directory. -/
theorem assigned_ne_nil (hm : AsksForDirectories m) (hl : IsOwner rules m l) (hname : l.name ≠ []) :
    assigned rules m l ≠ [] := by
  obtain ⟨p, hp, hlp⟩ := List.mem_flatMap.mp hl.mem
  intro hnil
  exact plainDirName_ne_nil (wantedDirName_ne_nil hm (List.mem_of_mem_filter hp) hlp hname)
    ((assigned_eq_nil_iff hl).mp hnil).2

/-- The directory of a duplicate: that of the last owner of the name that it duplicates. -/
def redirected? (rules : Settings.LibraryRules) (m : Model) (l : Entity) : Option Text := do
  let name ← (ofModel rules m).canonicalName l.name
  (lastOwner? rules m name).map (assigned rules m)

/-- The libraries that own no directory. -/
def others (rules : Settings.LibraryRules) (m : Model) : List Entity :=
  (localLibraries m).filter fun l ↦ !(owners rules m).any fun o ↦ o.place == l.place

theorem dirNames_eq (rules : Settings.LibraryRules) (m : Model) : (ofModel rules m).dirNames =
    ((owners rules m).map fun l ↦ (l.place, assigned rules m l)) ++
      (others rules m).filterMap fun l ↦ (redirected? rules m l).map fun dir ↦ (l.place, dir) := by
  -- the libraries with their directories, as they are collected
  let own : List (Entity × Text) := ((owners rules m).map fun l ↦
    (l, assignDirName rules ((owners rules m).map (base rules)) l)).map fun x ↦ (x.1, x.2.1)
  have hown : own = (owners rules m).map fun l ↦ (l, assigned rules m l) :=
    List.map_map
  have htable : (ofModel rules m).dirNames =
      (own ++ ((localLibraries m).filter fun l ↦ !own.any fun x ↦ x.1.place == l.place).filterMap
        fun l ↦ ((ofModel rules m).canonicalName l.name).bind fun name ↦
          (findLast? (own.map fun x ↦ (x.1.name, x.2)) name).bind fun dir ↦ some (l, dir)).map
            fun x ↦ (x.1.place, x.2) := rfl
  have hcanonical (name : Text) : findLast? (own.map fun x ↦ (x.1.name, x.2)) name =
      (lastOwner? rules m name).map (assigned rules m) := by
    rw [hown, List.map_map, findLast?, ← List.map_reverse, List.find?_map, Option.map_map]
    rfl
  rw [htable]
  simp only [hcanonical]
  rw [hown]
  simp only [List.map_append, List.map_map, List.map_filterMap, List.any_map, others, redirected?]
  refine congrArg _ (List.filterMap_congr fun l _ ↦ ?_)
  cases hname : (ofModel rules m).canonicalName l.name with
  | none => rfl
  | some name => cases hlast : lastOwner? rules m name <;> simp [hlast]

/-- A duplicate has the directory of the last owner of the name that it duplicates. -/
theorem find?_dirNames_duplicate (hd : d ∈ localLibraries m)
    (hname : (ofModel rules m).canonicalName d.name = some name)
    (hlast : lastOwner? rules m name = some c) :
    find? (ofModel rules m).dirNames d.place = some (assigned rules m c) := by
  have hduplicate : (ofModel rules m).isDuplicate d.name = true :=
    Option.isSome_iff_exists.mpr ⟨name, hname⟩
  have howner : ∀ o ∈ owners rules m, o.place ≠ d.place := by
    intro o ho hplace
    have ho := mem_owners.mp ho
    obtain rfl := eq_of_place_eq ho.mem hd hplace
    rw [ho.isNoDuplicate] at hduplicate
    cases hduplicate
  have hredirected : redirected? rules m d = some (assigned rules m c) := by
    rw [redirected?, hname]
    simp [hlast]
  have hother : d ∈ others rules m := by
    refine List.mem_filter.mpr ⟨hd, ?_⟩
    simpa using howner
  rw [dirNames_eq]
  refine find?_eq_some (List.mem_append_right _ (List.mem_filterMap.mpr
    ⟨d, hother, by rw [hredirected, Option.map_some]⟩)) fun dir hdir ↦ ?_
  rcases List.mem_append.mp hdir with hdir | hdir
  · obtain ⟨o, ho, heq⟩ := List.mem_map.mp hdir
    exact absurd (Prod.mk.inj heq).1 (howner o ho)
  · obtain ⟨l, hl, hdir⟩ := List.mem_filterMap.mp hdir
    obtain ⟨dir', hdir', heq⟩ := Option.map_eq_some_iff.mp hdir
    obtain ⟨hplace, rfl⟩ := Prod.mk.inj heq
    obtain rfl := eq_of_place_eq (List.mem_filter.mp hl).1 hd hplace
    exact Option.some.inj (hdir'.symm.trans hredirected)

/-- **Duplicates lead to what they duplicate.** Let a library of a local package duplicate a name,
under the usual prefixes, and let this be the name of some public one. Then there is such a library
that duplicates no other one and shares its directory with the duplicate. The duplicate has no page
and is not navigable, and what is public in it has its address in the shared directory, unless the
duplicate is internal. -/
theorem duplicates_lead_to_canonical
    (husual : rules.duplicatePrefixes = usualRules.duplicatePrefixes)
    (hm : AsksForDirectories m) (hd : d ∈ localLibraries m)
    (hname : (ofModel rules m).canonicalName d.name = some name)
    (hpublic : ∃ l ∈ localLibraries m, l.isPublic = true ∧ l.name = name) :
    ∃ c ∈ localLibraries m, c.isPublic = true ∧ c.name = name ∧
      (ofModel rules m).isDuplicate c.name = false ∧
      (ofModel rules m).dirName d = (ofModel rules m).dirName c ∧
      (ofModel rules m).filePath? d = none ∧
      (∀ p, d ∉ (ofModel rules m).navigableLibraries p) ∧
      ((ofModel rules m).isInternal d.name = false →
        ∀ e ∈ d.containers ++ d.topLevel, e.isPublic = true →
          ∃ file, find? (ofModel rules m).fileNames e.place = some file ∧
            (ofModel rules m).url? e =
              some ("/api/" ++ (ofModel rules m).dirName c ++ "/" ++ file)) := by
  have hplain : (ofModel rules m).isDuplicate name = false := isDuplicate_of_usual husual hname
  have hduplicate : (ofModel rules m).isDuplicate d.name = true :=
    Option.isSome_iff_exists.mpr ⟨name, hname⟩
  obtain ⟨l, hl, hlpublic, rfl⟩ := hpublic
  obtain ⟨c, hlast⟩ := Option.isSome_iff_exists.mp (isSome_lastOwner? ⟨hl, hlpublic, hplain⟩)
  obtain ⟨hc, hcname⟩ := of_lastOwner? hlast
  have hassigned : assigned rules m c ≠ [] := by
    obtain ⟨rest, hrest⟩ := startsWith_of_canonicalName husual hname
    refine assigned_ne_nil hm hc ?_
    rw [hcname, hrest]
    exact List.cons_ne_nil _ _
  have hdir : (ofModel rules m).dirName d = (ofModel rules m).dirName c := by
    rw [dirName_of_assigned hc hassigned, dirName, find?_dirNames_duplicate hd hname hlast]
    simp [nonempty, hassigned]
  refine ⟨c, hc.mem, hc.isPublic, hcname, hc.isNoDuplicate, hdir, ?_, fun p hp ↦ ?_,
    fun hinternal e he hepublic ↦ ?_⟩
  · obtain ⟨i, j, pkg, lib, -, -, rfl⟩ := mem_localLibraries hd
    simp only [filePath?, hduplicate, if_true]
  · have hnone := (mem_navigableLibraries.mp hp).2.2.2.1
    rw [hduplicate] at hnone
    cases hnone
  · refine ⟨_, find?_fileNames hd he, ?_⟩
    rw [url?_declaration he, pageFile?_of_mem hd he, hepublic, hinternal, find?_fileNames hd he,
      hdir]
    rfl

/-- A library with a dot for the colon of another one's name is the duplicate of that one. -/
theorem duplicates_lead_to_canonical_kit :
    (ofModel usualRules (kit ["dart:core", "dart.core"])).canonicalName "dart.core" =
      some "dart:core" ∧
    ∃ c ∈ localLibraries (kit ["dart:core", "dart.core"]), c.name = "dart:core" ∧
      (ofModel usualRules (kit ["dart:core", "dart.core"])).dirName
          (kitEntity ["dart:core", "dart.core"] 1 "dart.core") =
        (ofModel usualRules (kit ["dart:core", "dart.core"])).dirName c ∧
      (ofModel usualRules (kit ["dart:core", "dart.core"])).filePath?
        (kitEntity ["dart:core", "dart.core"] 1 "dart.core") = none ∧
      ∃ file, (ofModel usualRules (kit ["dart:core", "dart.core"])).url?
          (objectEntity ["dart:core", "dart.core"] 1 "dart.core") =
        some ("/api/" ++ (ofModel usualRules (kit ["dart:core", "dart.core"])).dirName c ++ "/" ++
          file) := by
  have hpublic : ∃ l ∈ localLibraries (kit ["dart:core", "dart.core"]),
      l.isPublic = true ∧ l.name = "dart:core" := ⟨_, List.mem_cons_self, rfl, rfl⟩
  have hd : kitEntity ["dart:core", "dart.core"] 1 "dart.core" ∈
      localLibraries (kit ["dart:core", "dart.core"]) :=
    List.mem_cons_of_mem _ List.mem_cons_self
  have hname : (ofModel usualRules (kit ["dart:core", "dart.core"])).canonicalName "dart.core" =
      some "dart:core" := rfl
  obtain ⟨c, hc, -, hcname, -, hdir, hnone, -, hurl⟩ :=
    duplicates_lead_to_canonical rfl (asksForDirectories_kit _) hd hname hpublic
  obtain ⟨file, -, hfile⟩ :=
    hurl rfl (objectEntity ["dart:core", "dart.core"] 1 "dart.core") List.mem_cons_self rfl
  exact ⟨hname, c, hc, hcname, hdir, hnone, file, hfile⟩

end ApiSite.Location
