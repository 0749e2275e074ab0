import ApiSite.Proofs.LetterCase
import ApiSite.Proofs.Location.Directories
import ApiSite.Proofs.Model.Entities
import ApiSite.Proofs.Model.Loading

/-!
# Files of declarations that differ whatever the case

On a disk that does not tell capitals from small letters, two pages of a library must not have names
that differ in case only. A declaration has the file of its name, with the word for its kind behind
a hyphen where the library's own page would have that file, and for a top-level element once more
where a container has it. The containers that this is checked against are known by their names
alone, before anything stands behind them.

So names without hyphens are told apart from those with a word behind them by the hyphen, and two
names with words behind them by these words (`kindSuffix_ne_append`). In a model that was read no
container has a kind of top-level elements, and no top-level element that of a container
(`isContainerKind_of_mem_containers`, `isContainerKind_of_mem_topLevel`). The main result is
`lower_files_ne`.
-/

set_option autoImplicit false

namespace ApiSite.Location

open Model

variable {rules : Settings.LibraryRules} {m : Model} {l l' e e' c : Entity} {taken : List Text}

/-! ### Declarations of a library -/

theorem mem_containers {i j : Nat} {lib : Library} {outer : List Node} :
    c ∈ Entity.containers ⟨.library i j, .library lib, outer⟩ ↔
      ∃ k cont, lib.containers[k]? = some cont ∧
        c = ⟨.container i j k, .container cont, .library lib :: outer⟩ := by
  simp only [Entity.containers, Entity.within, List.mem_map, Prod.exists,
    List.mem_zipIdx_iff_getElem?]
  constructor
  · rintro ⟨cont, k, hcont, rfl⟩
    exact ⟨k, cont, hcont, rfl⟩
  · rintro ⟨k, cont, hcont, rfl⟩
    exact ⟨cont, k, hcont, rfl⟩

theorem mem_topLevel {i j : Nat} {lib : Library} {outer : List Node} :
    e ∈ Entity.topLevel ⟨.library i j, .library lib, outer⟩ ↔
      ∃ k element, lib.topLevel[k]? = some element ∧
        e = ⟨.topLevel i j k, .topLevel element, .library lib :: outer⟩ := by
  simp only [Entity.topLevel, Entity.within, List.mem_map, Prod.exists,
    List.mem_zipIdx_iff_getElem?]
  constructor
  · rintro ⟨element, k, helement, rfl⟩
    exact ⟨k, element, helement, rfl⟩
  · rintro ⟨k, element, helement, rfl⟩
    exact ⟨element, k, helement, rfl⟩

theorem isContainer_of_mem_containers (hl : l ∈ localLibraries m) (hc : c ∈ l.containers) :
    c.place.isContainer = true := by
  obtain ⟨i, j, pkg, lib, -, -, rfl⟩ := mem_localLibraries hl
  obtain ⟨k, cont, -, rfl⟩ := mem_containers.mp hc
  rfl

theorem isContainer_of_mem_topLevel (hl : l ∈ localLibraries m) (he : e ∈ l.topLevel) :
    e.place.isContainer = false := by
  obtain ⟨i, j, pkg, lib, -, -, rfl⟩ := mem_localLibraries hl
  obtain ⟨k, element, -, rfl⟩ := mem_topLevel.mp he
  rfl

theorem isIn_of_mem_localLibraries_declarations (hl : l ∈ localLibraries m)
    (he : e ∈ l.containers ++ l.topLevel) : e.IsIn m := by
  obtain ⟨p, hp, hl⟩ := List.mem_flatMap.mp hl
  have hp := List.mem_of_mem_filter hp
  exact (List.mem_append.mp he).elim (.container hp hl) (.topLevel hp hl)

/-- A declaration is determined by its place. -/
theorem eq_of_declaration_place_eq (hl : l ∈ localLibraries m) (hl' : l' ∈ localLibraries m)
    (he : e ∈ l.containers ++ l.topLevel) (he' : e' ∈ l'.containers ++ l'.topLevel)
    (hplace : e.place = e'.place) : l = l' ∧ e = e' := by
  obtain rfl := (isIn_of_mem_localLibraries_declarations hl he).eq_of_place_eq
    (isIn_of_mem_localLibraries_declarations hl' he') hplace
  refine ⟨Option.some.inj ?_, rfl⟩
  rw [← Entity.parent?_of_mem_declarations he, ← Entity.parent?_of_mem_declarations he']

/-! ### The files that are assigned -/

theorem mem_fileNames {place : Place} {file : Text} :
    (place, file) ∈ (ofModel rules m).fileNames ↔
      ∃ l ∈ localLibraries m, ∃ e ∈ l.containers ++ l.topLevel,
        e.place = place ∧ (assignFileName (containerFiles l) e).1 = file := by
  have htable : (ofModel rules m).fileNames =
      ((localLibraries m).flatMap assignFileNames).map fun x ↦ (x.1, x.2.1) := rfl
  rw [htable, List.map_flatMap, List.mem_flatMap]
  refine exists_congr fun l ↦ and_congr_right fun _ ↦ ?_
  simp only [assignFileNames, List.map_map, List.mem_map, Function.comp_apply, Prod.mk.injEq]

theorem find?_eq_some {entries : List (Place × Text)} {place : Place} {value : Text}
    (hmem : (place, value) ∈ entries)
    (hunique : ∀ other, (place, other) ∈ entries → other = value) :
    find? entries place = some value := by
  have hsome : (entries.find? fun x ↦ x.1 == place).isSome :=
    List.find?_isSome.mpr ⟨_, hmem, beq_self_eq_true place⟩
  obtain ⟨⟨place', other⟩, hfind⟩ := Option.isSome_iff_exists.mp hsome
  have hplace := List.find?_some hfind
  obtain rfl : place' = place := beq_iff_eq.mp hplace
  rw [find?, hfind, Option.map_some, hunique other (List.mem_of_find?_eq_some hfind)]

/-- Each declaration has the file that its library assigns to it. -/
theorem find?_fileNames (hl : l ∈ localLibraries m) (he : e ∈ l.containers ++ l.topLevel) :
    find? (ofModel rules m).fileNames e.place =
      some (assignFileName (containerFiles l) e).1 := by
  refine find?_eq_some (mem_fileNames.mpr ⟨l, hl, e, he, rfl, rfl⟩) fun other hother ↦ ?_
  obtain ⟨l', hl', e', he', hplace, rfl⟩ := mem_fileNames.mp hother
  obtain ⟨rfl, rfl⟩ := eq_of_declaration_place_eq hl hl' he he' hplace.symm
  rfl

/-- A file with the word for a kind behind it. -/
def withKind (file : Text) (e : Entity) : Text := file ++ '-' :: kindSuffix e.kind

/-- The file of a name, if it is not that of the library's own page. -/
def besideIndex (e : Entity) : Text :=
  let file := Naming.fileName e.name
  if Text.lower file == "index" then withKind file e else file

theorem assignFileName_eq (taken : List Text) (e : Entity) :
    (assignFileName taken e).1 =
      if !e.place.isContainer && taken.contains (Text.lower (besideIndex e)) then
        withKind (besideIndex e) e
      else besideIndex e := by
  unfold assignFileName besideIndex withKind
  by_cases hindex : (Text.lower (Naming.fileName e.name) == "index") = true
  all_goals
    simp only [hindex, if_true, if_false, Bool.false_eq_true]
    split <;> rfl

theorem assignFileName_of_isContainer (hc : c.place.isContainer = true) :
    (assignFileName taken c).1 = besideIndex c := by
  simp [assignFileName_eq, hc]

/-- The file of a top-level element is no name of a container, or it has a word behind it. -/
theorem assignFileName_of_not_isContainer (he : e.place.isContainer = false) :
    Text.lower (besideIndex e) ∉ taken ∧ (assignFileName taken e).1 = besideIndex e ∨
      (assignFileName taken e).1 = withKind (besideIndex e) e := by
  by_cases htaken : Text.lower (besideIndex e) ∈ taken
  · exact Or.inr (by simp [assignFileName_eq, he, htaken])
  · exact Or.inl ⟨htaken, by simp [assignFileName_eq, he, htaken]⟩

/-! ### Words for kinds -/

theorem kindSuffix_mem (kind : Text) :
    kindSuffix kind ∈ ("element" : Text) :: kindSuffixes.map (·.2) := by
  rw [kindSuffix]
  cases hfind : kindSuffixes.find? (·.1 == kind) with
  | none => exact List.mem_cons_self
  | some x =>
    exact List.mem_cons_of_mem _ (List.mem_map.mpr ⟨x, List.mem_of_find?_eq_some hfind, rfl⟩)

theorem lowerFrom_kindSuffix (before kind : Text) :
    Text.lowerFrom before (kindSuffix kind) = kindSuffix kind := by
  have htable : ∀ word ∈ ("element" : Text) :: kindSuffixes.map (·.2),
      (word.all fun c ↦ c.toNat < 128 ∧ c.toLower = c) = true := by decide
  have hword := List.all_eq_true.mp (htable _ (kindSuffix_mem kind))
  exact Text.lowerFrom_eq_self fun c hc ↦ of_decide_eq_true (hword c hc)

/-- No word for a kind of containers begins with a word for another kind. -/
theorem kindSuffix_ne_append {kind kind' : Text} (hkind : isContainerKind kind = true)
    (hkind' : isContainerKind kind' = false) (rest : Text) :
    kindSuffix kind ≠ kindSuffix kind' ++ rest := by
  have htable : ∀ kind ∈ containerKinds,
      ∀ x ∈ ([], ("element" : Text)) :: kindSuffixes, isContainerKind x.1 = false →
        Text.startsWith x.2 (kindSuffix kind) = false := by decide
  have hstart : Text.startsWith (kindSuffix kind') (kindSuffix kind) = false := by
    have hmem : kind ∈ containerKinds := List.contains_iff_mem.mp hkind
    cases hfind : kindSuffixes.find? (·.1 == kind') with
    | none => simpa [kindSuffix, hfind] using htable kind hmem _ List.mem_cons_self rfl
    | some x =>
      have hx := List.mem_cons_of_mem ([], ("element" : Text)) (List.mem_of_find?_eq_some hfind)
      have hname := List.find?_some hfind
      obtain rfl : x.1 = kind' := beq_iff_eq.mp hname
      simpa [kindSuffix, hfind] using htable kind hmem x hx hkind'
  intro heq
  rw [heq, Text.startsWith, Bool.eq_false_iff] at hstart
  exact hstart (List.isPrefixOf_iff_prefix.mpr (List.prefix_append _ _))

/-! ### Files in lower case -/

/-- What stands before the first hyphen is determined, and so is what stands behind it. -/
theorem append_hyphen_inj {first first' rest rest' : Text} (hfirst : '-' ∉ first)
    (hfirst' : '-' ∉ first') (heq : first ++ '-' :: rest = first' ++ '-' :: rest') :
    first = first' ∧ rest = rest' := by
  have hstart := congrArg (List.takeWhile (· != '-')) heq
  rw [Text.takeWhile_append_stop hfirst, Text.takeWhile_append_stop hfirst'] at hstart
  subst hstart
  exact ⟨rfl, (List.cons.inj (List.append_cancel_left heq)).2⟩

theorem lower_withKind (file : Text) (e : Entity) :
    Text.lower (withKind file e) = Text.lower file ++ '-' :: kindSuffix e.kind := by
  rw [withKind, Text.lower, Text.lowerFrom_append_hyphen, lowerFrom_kindSuffix, Text.lower]

/-- With a word behind it, a file has a hyphen in lower case too. -/
theorem hyphen_mem_lower_withKind (file : Text) (e : Entity) :
    '-' ∈ Text.lower (withKind file e) := by
  simp [lower_withKind]

theorem ne_of_hyphen {file other : Text} (hfile : '-' ∉ file) (hother : '-' ∈ other) :
    file ≠ other := by
  rintro rfl
  exact hfile hother

theorem besideIndex_eq (e : Entity) :
    Text.lower (Naming.fileName e.name) = "index" ∧
        besideIndex e = withKind (Naming.fileName e.name) e ∨
      Text.lower (Naming.fileName e.name) ≠ "index" ∧ besideIndex e = Naming.fileName e.name := by
  by_cases hindex : Text.lower (Naming.fileName e.name) = "index"
  · exact Or.inl ⟨hindex, by simp [besideIndex, hindex]⟩
  · refine Or.inr ⟨hindex, ?_⟩
    rw [besideIndex, if_neg (by simpa using hindex)]

/-- No declaration has the file of the library's own page. -/
theorem lower_assignFileName_ne_index (taken : List Text) (e : Entity) :
    Text.lower (assignFileName taken e).1 ≠ "index" := by
  have hword (file : Text) : Text.lower (withKind file e) ≠ "index" :=
    (ne_of_hyphen (by decide) (hyphen_mem_lower_withKind file e)).symm
  rw [assignFileName_eq]
  split
  · exact hword _
  · rcases besideIndex_eq e with ⟨-, hfile⟩ | ⟨hindex, hfile⟩
    · rw [hfile]
      exact hword _
    · rwa [hfile]

/-- A container whose name is taken and a declaration that has to avoid this name. -/
theorem lower_besideIndex_ne_assignFileName (hckind : isContainerKind c.kind = true)
    (hekind : isContainerKind e.kind = false) (hcname : '-' ∉ Naming.fileName c.name)
    (hename : '-' ∉ Naming.fileName e.name) (he : e.place.isContainer = false)
    (htaken : Text.lower (Naming.fileName c.name) ∈ taken) :
    Text.lower (besideIndex c) ≠ Text.lower (assignFileName taken e).1 := by
  have hcname := Text.hyphen_not_mem_lower hcname
  have hename := Text.hyphen_not_mem_lower hename
  have hindexname : '-' ∉ ("index" : Text) := by decide
  rcases besideIndex_eq c with ⟨hcindex, hcfile⟩ | ⟨-, hcfile⟩
  · rw [hcfile, lower_withKind, hcindex]
    rcases besideIndex_eq e with ⟨heindex, hefile⟩ | ⟨heindex, hefile⟩
    · -- Both names are that of the library's page: the words for the kinds differ.
      rcases assignFileName_of_not_isContainer he with ⟨-, hfile⟩ | hfile
      · rw [hfile, hefile, lower_withKind, heindex]
        intro heq
        have hwords := (append_hyphen_inj hindexname hindexname heq).2
        exact kindSuffix_ne_append hckind hekind [] (by rw [hwords, List.append_nil])
      · rw [hfile, hefile, lower_withKind, lower_withKind, heindex, List.append_assoc]
        intro heq
        have hwords := (append_hyphen_inj hindexname hindexname heq).2
        exact kindSuffix_ne_append hckind hekind _ hwords
    · rcases assignFileName_of_not_isContainer he with ⟨-, hfile⟩ | hfile
      · rw [hfile, hefile]
        exact (ne_of_hyphen hename (by simp)).symm
      · rw [hfile, hefile, lower_withKind]
        exact fun heq ↦ heindex (append_hyphen_inj hindexname hename heq).1.symm
  · rw [hcfile]
    rcases assignFileName_of_not_isContainer he with ⟨hfree, hfile⟩ | hfile
    · rw [hfile]
      exact ne_of_mem_of_not_mem htaken hfree
    · rw [hfile]
      exact ne_of_hyphen hcname (hyphen_mem_lower_withKind _ e)

/-! ### Kinds in a model that was read -/

theorem isContainerKind_of_mem_containers (hm : m.IsSound) (hl : l ∈ localLibraries m)
    (hc : c ∈ l.containers) : isContainerKind c.kind = true := by
  obtain ⟨i, j, pkg, lib, hpkg, hlib, rfl⟩ := mem_localLibraries hl
  obtain ⟨k, cont, hcont, rfl⟩ := mem_containers.mp hc
  exact (hm pkg (List.mem_of_getElem? hpkg) lib (List.mem_of_getElem? hlib)).containers cont
    (List.mem_of_getElem? hcont)

theorem isContainerKind_of_mem_topLevel (hm : m.IsSound) (hl : l ∈ localLibraries m)
    (he : e ∈ l.topLevel) : isContainerKind e.kind = false := by
  have hdisjoint : ∀ kind ∈ topLevelKinds, isContainerKind kind = false := by decide
  obtain ⟨i, j, pkg, lib, hpkg, hlib, rfl⟩ := mem_localLibraries hl
  obtain ⟨k, element, helement, rfl⟩ := mem_topLevel.mp he
  have hkind := (hm pkg (List.mem_of_getElem? hpkg) lib (List.mem_of_getElem? hlib)).topLevel
    element (List.mem_of_getElem? helement)
  exact hdisjoint element.kind (List.contains_iff_mem.mp hkind)

/-- **Files of one library.** In a model that was read, a public container and a top-level element
of a library, whose names make files without hyphens, have files that differ in lower case too, and
neither has that of the library's own page. -/
theorem lower_files_ne {doc : Value} (hread : (Model.ofValue doc).1 = .ok m)
    (hl : l ∈ localLibraries m) (hc : c ∈ l.containers) (hpublic : c.isPublic = true)
    (he : e ∈ l.topLevel) (hcname : '-' ∉ Naming.fileName c.name)
    (hename : '-' ∉ Naming.fileName e.name) :
    ∃ file file', find? (ofModel rules m).fileNames c.place = some file ∧
      find? (ofModel rules m).fileNames e.place = some file' ∧
      Text.lower file ≠ Text.lower file' ∧ Text.lower file ≠ "index" ∧
      Text.lower file' ≠ "index" := by
  refine ⟨_, _, find?_fileNames hl (List.mem_append_left _ hc),
    find?_fileNames hl (List.mem_append_right _ he), ?_, lower_assignFileName_ne_index _ c,
    lower_assignFileName_ne_index _ e⟩
  have hm := Model.isSound_of_ofValue hread
  have htaken : Text.lower (Naming.fileName c.name) ∈ containerFiles l :=
    List.mem_map.mpr ⟨c, List.mem_filter.mpr ⟨hc, hpublic⟩, rfl⟩
  rw [assignFileName_of_isContainer (isContainer_of_mem_containers hl hc)]
  exact lower_besideIndex_ne_assignFileName (isContainerKind_of_mem_containers hm hl hc)
    (isContainerKind_of_mem_topLevel hm hl he) hcname hename (isContainer_of_mem_topLevel hl he)
    htaken

/-! ### Two indices -/

/-- A library with a class and a function of the same name but for the case, which is that of the
library's own page. -/
def indexDoc : Value := .record [("package", .record [("name", .text "kit"),
  ("libraries", .list [.record [("name", .text "kit"),
    ("containers", .list [.record [("name", .text "Index"), ("kind", .text "class")]]),
    ("top_level", .list [.record [("name", .text "index"), ("kind", .text "function")]])]])])]

def indexClass : Container := { name := "Index", kind := "class" }

def indexFunction : TopLevel := { toInfo := { name := "index", kind := "function" } }

def indexLibrary : Library :=
  { name := "kit", kind := "library", dirName := "kit", containers := [indexClass],
    topLevel := [indexFunction] }

def indexPackage : Package := { name := "kit", kind := "package", libraries := [indexLibrary] }

/-- What is read from the document. -/
def indexModel : Model := ⟨[indexPackage], [], "kit"⟩

/-- The class and the function have files of their own. -/
theorem lower_files_ne_index :
    (Model.ofValue indexDoc).1 = .ok indexModel ∧
    ∃ file file',
      find? (ofModel ⟨[], [], [], []⟩ indexModel).fileNames (.container 0 0 0) = some file ∧
      find? (ofModel ⟨[], [], [], []⟩ indexModel).fileNames (.topLevel 0 0 0) = some file' ∧
      Text.lower file ≠ Text.lower file' ∧ Text.lower file ≠ "index" ∧
      Text.lower file' ≠ "index" := by
  have hname (name : Text) (hmem : name ∈ Text.ofStrings ["Index", "index"]) :
      '-' ∉ Naming.fileName name := by
    revert name
    decide
  have hread : (Model.ofValue indexDoc).1 = .ok indexModel := rfl
  exact ⟨hread, lower_files_ne hread
    (l := ⟨.library 0 0, .library indexLibrary, [.package indexPackage]⟩)
    (c := ⟨.container 0 0 0, .container indexClass,
      [.library indexLibrary, .package indexPackage]⟩)
    (e := ⟨.topLevel 0 0 0, .topLevel indexFunction,
      [.library indexLibrary, .package indexPackage]⟩)
    List.mem_cons_self List.mem_cons_self rfl List.mem_cons_self
    (hname _ (by decide)) (hname _ (by decide))⟩

end ApiSite.Location
