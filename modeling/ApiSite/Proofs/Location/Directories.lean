import ApiSite.Location.Assignment
import ApiSite.Proofs.Model.Entities
import ApiSite.Proofs.Text
import Mathlib.Data.List.Perm.Basic
import Mathlib.Data.List.Sigma

/-!
# Which libraries share a directory

Public libraries of local packages that duplicate no other one are the owners of directories
(`IsOwner`). An owner gets the directory that it asks for (`base`), with the name of its package in
front where another owner asks for the same one (`IsShared`). This tells owners apart only as far as
the names of packages do, and what comes out may be what another library has asked for. `Clash`
lists all the ways in which two owners come to one directory.

The main result is `dirName_eq_iff_clash`: two owners have one directory exactly if they clash, and
only then can two of their pages be one file.
-/

set_option autoImplicit false

namespace ApiSite.Location

open Model

variable {rules : Settings.LibraryRules} {m : Model} {a b l : Entity}

/-! ### Libraries by their places -/

/-- The libraries of the packages that the site has pages for. -/
def localLibraries (m : Model) : List Entity :=
  (m.entities.filter isLocal).flatMap Entity.libraries

theorem mem_entities {p : Entity} :
    p ∈ m.entities ↔ ∃ i pkg, m.packages[i]? = some pkg ∧ p = ⟨.package i, .package pkg, []⟩ := by
  simp only [entities, List.mem_map, Prod.exists, List.mem_zipIdx_iff_getElem?]
  constructor
  · rintro ⟨pkg, i, hpkg, rfl⟩
    exact ⟨i, pkg, hpkg, rfl⟩
  · rintro ⟨i, pkg, hpkg, rfl⟩
    exact ⟨pkg, i, hpkg, rfl⟩

theorem mem_libraries {i : Nat} {pkg : Package} :
    l ∈ Entity.libraries ⟨.package i, .package pkg, []⟩ ↔
      ∃ j lib, pkg.libraries[j]? = some lib ∧ l = ⟨.library i j, .library lib, [.package pkg]⟩ := by
  simp only [Entity.libraries, Entity.within, List.mem_map, Prod.exists,
    List.mem_zipIdx_iff_getElem?]
  constructor
  · rintro ⟨lib, j, hlib, rfl⟩
    exact ⟨j, lib, hlib, rfl⟩
  · rintro ⟨j, lib, hlib, rfl⟩
    exact ⟨lib, j, hlib, rfl⟩

theorem mem_localLibraries (hl : l ∈ localLibraries m) :
    ∃ i j pkg lib, m.packages[i]? = some pkg ∧ pkg.libraries[j]? = some lib ∧
      l = ⟨.library i j, .library lib, [.package pkg]⟩ := by
  obtain ⟨p, hp, hl⟩ := List.mem_flatMap.mp hl
  obtain ⟨i, pkg, hpkg, rfl⟩ := mem_entities.mp (List.mem_filter.mp hp).1
  obtain ⟨j, lib, hlib, rfl⟩ := mem_libraries.mp hl
  exact ⟨i, j, pkg, lib, hpkg, hlib, rfl⟩

theorem isIn_of_mem_localLibraries (hl : l ∈ localLibraries m) : l.IsIn m := by
  obtain ⟨p, hp, hl⟩ := List.mem_flatMap.mp hl
  exact .library (List.mem_of_mem_filter hp) hl

/-- A library is determined by its place. -/
theorem eq_of_place_eq (ha : a ∈ localLibraries m) (hb : b ∈ localLibraries m)
    (hplace : a.place = b.place) : a = b :=
  (isIn_of_mem_localLibraries ha).eq_of_place_eq (isIn_of_mem_localLibraries hb) hplace

theorem nodup_localLibraries (m : Model) : (localLibraries m).Nodup := by
  have hplaces : (m.entities.map Entity.place).Nodup := by
    have hindices := (List.nodup_zipIdx_map_snd m.packages).map (f := Place.package)
      fun i j ↦ Place.package.inj
    rw [entities, List.map_map]
    rwa [List.map_map] at hindices
  refine List.nodup_flatMap.mpr ⟨fun p hp ↦ ?_, ?_⟩
  · obtain ⟨i, pkg, -, rfl⟩ := mem_entities.mp (List.mem_filter.mp hp).1
    refine List.Nodup.of_map Entity.place ?_
    have hindices := (List.nodup_zipIdx_map_snd pkg.libraries).map (f := Place.library i)
      fun j k heq ↦ (Place.library.inj heq).2
    rw [Entity.libraries, List.map_map]
    rwa [List.map_map] at hindices
  · refine ((List.pairwise_map.mp hplaces).filter _).imp_of_mem fun {p q} hp hq hne x hx hx' ↦ ?_
    obtain ⟨i, pkg, -, rfl⟩ := mem_entities.mp (List.mem_filter.mp hp).1
    obtain ⟨j, pkg', -, rfl⟩ := mem_entities.mp (List.mem_filter.mp hq).1
    obtain ⟨k, lib, -, rfl⟩ := mem_libraries.mp hx
    obtain ⟨k', lib', -, heq⟩ := mem_libraries.mp hx'
    exact hne (congrArg Place.package (Place.library.inj (Entity.mk.inj heq).1).1)

/-! ### Owners of directories -/

/-- Where the entities of a model are. -/
def ofModel (rules : Settings.LibraryRules) (m : Model) : Location := (build rules m.entities).1

/-- A public library of a local package that duplicates no other one. -/
structure IsOwner (rules : Settings.LibraryRules) (m : Model) (l : Entity) : Prop where
  mem : l ∈ localLibraries m
  isPublic : l.isPublic = true
  isNoDuplicate : (ofModel rules m).isDuplicate l.name = false

/-- The libraries that get directories of their own, in the order in which they get them. -/
def owners (rules : Settings.LibraryRules) (m : Model) : List Entity :=
  (ofModel rules m).libraryCandidates (m.entities.filter isLocal)

theorem publicLibraries_perm (p : Entity) :
    (publicLibraries p).Perm (p.libraries.filter Entity.isPublic) :=
  Text.sortByName_perm Entity.name _

/-- Up to their order the owners are those of the local libraries that can be. -/
theorem owners_perm (rules : Settings.LibraryRules) (m : Model) :
    (owners rules m).Perm (((localLibraries m).filter Entity.isPublic).filter fun l ↦
      !(ofModel rules m).isDuplicate l.name) := by
  rw [localLibraries, List.filter_flatMap, List.filter_flatMap]
  exact List.Perm.flatMap_left _ fun p _ ↦ (publicLibraries_perm p).filter _

theorem mem_owners : l ∈ owners rules m ↔ IsOwner rules m l := by
  rw [(owners_perm rules m).mem_iff, List.mem_filter, List.mem_filter, Bool.not_eq_true']
  exact ⟨fun ⟨⟨hmem, hpublic⟩, hown⟩ ↦ ⟨hmem, hpublic, hown⟩,
    fun h ↦ ⟨⟨h.mem, h.isPublic⟩, h.isNoDuplicate⟩⟩

theorem nodup_owners (rules : Settings.LibraryRules) (m : Model) : (owners rules m).Nodup :=
  (owners_perm rules m).nodup_iff.mpr (((nodup_localLibraries m).filter _).filter _)

/-! ### The directories that they get -/

/-- The directory that a library asks for. -/
def base (rules : Settings.LibraryRules) (l : Entity) : Text :=
  plainDirName rules (wantedDirName l)

/-- Another owner asks for the same directory. -/
def IsShared (rules : Settings.LibraryRules) (m : Model) (l : Entity) : Prop :=
  ∃ other, IsOwner rules m other ∧ other ≠ l ∧ base rules other = base rules l

/-- The directory that an owner asks for, with the name of its package in front. -/
def prefixed (rules : Settings.LibraryRules) (l : Entity) : Text :=
  ownerName l ++ '_' :: base rules l

/-- The directory that is assigned to an owner. -/
def assigned (rules : Settings.LibraryRules) (m : Model) (l : Entity) : Text :=
  (assignDirName rules ((owners rules m).map (base rules)) l).1

/-- The bases of the owners hold that of an owner twice exactly if another owner asks for it. -/
theorem one_lt_count_iff (hl : IsOwner rules m l) :
    1 < ((owners rules m).map (base rules)).count (base rules l) ↔ IsShared rules m l := by
  obtain ⟨before, after, hsplit⟩ := List.append_of_mem (mem_owners.mpr hl)
  have hnodup := nodup_owners rules m
  rw [hsplit, List.nodup_append, List.nodup_cons] at hnodup
  have hother : ∀ o, IsOwner rules m o ∧ o ≠ l ↔ o ∈ before ++ after := by
    intro o
    rw [← mem_owners, hsplit, List.mem_append, List.mem_append, List.mem_cons]
    constructor
    · rintro ⟨h | rfl | h, hne⟩
      · exact Or.inl h
      · exact absurd rfl hne
      · exact Or.inr h
    · rintro (h | h)
      · exact ⟨Or.inl h, hnodup.2.2 o h l List.mem_cons_self⟩
      · exact ⟨Or.inr (Or.inr h), fun heq ↦ hnodup.2.1.1 (heq ▸ h)⟩
  have hcount : ((owners rules m).map (base rules)).count (base rules l) =
      ((before ++ after).map (base rules)).count (base rules l) + 1 := by
    rw [hsplit]
    simp only [List.map_append, List.map_cons, List.count_append, List.count_cons_self]
    omega
  rw [hcount, Nat.lt_add_left_iff_pos, List.count_pos_iff, List.mem_map]
  exact exists_congr fun o ↦ by rw [← and_assoc, hother]

theorem assigned_of_isShared (hl : IsOwner rules m l) (hshared : IsShared rules m l) :
    assigned rules m l = prefixed rules l := by
  have hcount := (one_lt_count_iff hl).mpr hshared
  rw [assigned, assignDirName]
  simp only [base] at hcount ⊢
  rw [if_pos hcount]
  rfl

theorem assigned_of_not_isShared (hl : IsOwner rules m l) (hshared : ¬IsShared rules m l) :
    assigned rules m l = base rules l := by
  have hcount := mt (one_lt_count_iff hl).mp hshared
  rw [assigned, assignDirName]
  simp only [base] at hcount ⊢
  rw [if_neg hcount]

/-- Only an owner that asks for no directory, and is alone with that, is assigned none. -/
theorem assigned_eq_nil_iff (hl : IsOwner rules m l) :
    assigned rules m l = [] ↔ ¬IsShared rules m l ∧ base rules l = [] := by
  by_cases hshared : IsShared rules m l
  · simp [assigned_of_isShared hl hshared, prefixed, hshared]
  · simp [assigned_of_not_isShared hl hshared, hshared]

/-- The last owner of a name. -/
def lastOwner? (rules : Settings.LibraryRules) (m : Model) (name : Text) : Option Entity :=
  (owners rules m).reverse.find? fun l ↦ l.name == name

theorem isSome_lastOwner? (hl : IsOwner rules m l) : (lastOwner? rules m l.name).isSome := by
  rw [lastOwner?, List.find?_isSome]
  exact ⟨l, List.mem_reverse.mpr (mem_owners.mpr hl), beq_self_eq_true _⟩

theorem of_lastOwner? {name : Text} (hl : lastOwner? rules m name = some l) :
    IsOwner rules m l ∧ l.name = name := by
  have hname := List.find?_some hl
  exact ⟨mem_owners.mp (List.mem_reverse.mp (List.mem_of_find?_eq_some hl)), beq_iff_eq.mp hname⟩

/-- The tables of directories begin with the owners; what follows are duplicates. -/
theorem exists_redirected (rules : Settings.LibraryRules) (m : Model) :
    ∃ redirected : List (Entity × Text),
      (ofModel rules m).dirNames =
        (((owners rules m).map fun l ↦ (l, assigned rules m l)) ++ redirected).map
          (fun x ↦ (x.1.place, x.2)) ∧
      (ofModel rules m).dirNamesByName =
        (((owners rules m).map fun l ↦ (l, assigned rules m l)) ++ redirected).map
          (fun x ↦ (x.1.name, x.2)) ∧
      ∀ x ∈ redirected, (ofModel rules m).isDuplicate x.1.name = true := by
  have hown : ((owners rules m).map fun l ↦ (l, assigned rules m l)) =
      ((owners rules m).map fun l ↦
        (l, assignDirName rules ((owners rules m).map (base rules)) l)).map
          fun x ↦ (x.1, x.2.1) := by
    rw [List.map_map]
    rfl
  rw [hown]
  refine ⟨_, rfl, rfl, fun x hx ↦ ?_⟩
  obtain ⟨l, -, hredirected⟩ := List.mem_filterMap.mp hx
  obtain ⟨name, hname, hdir⟩ := Option.bind_eq_some_iff.mp hredirected
  obtain ⟨dir, -, hpair⟩ := Option.bind_eq_some_iff.mp hdir
  obtain rfl : (l, dir) = x := Option.some.inj hpair
  exact Option.isSome_iff_exists.mpr ⟨name, hname⟩

theorem find?_dirNames (hl : IsOwner rules m l) :
    find? (ofModel rules m).dirNames l.place = some (assigned rules m l) := by
  obtain ⟨redirected, hdirs, -, -⟩ := exists_redirected rules m
  have hfind : (owners rules m).find? (fun o ↦ o.place == l.place) = some l := by
    obtain ⟨before, after, hsplit⟩ := List.append_of_mem (mem_owners.mpr hl)
    have hnodup := nodup_owners rules m
    rw [hsplit, List.nodup_append] at hnodup
    refine List.find?_eq_some_iff_append.mpr ⟨beq_self_eq_true _, before, after, hsplit, ?_⟩
    intro o ho
    have howner : IsOwner rules m o := mem_owners.mp (hsplit ▸ List.mem_append_left _ ho)
    rw [Bool.not_eq_true', beq_eq_false_iff_ne]
    exact fun hplace ↦
      hnodup.2.2 o ho l List.mem_cons_self (eq_of_place_eq howner.mem hl.mem hplace)
  rw [find?, hdirs, List.find?_map, List.find?_append, List.find?_map]
  simp [Function.comp_def, hfind]

theorem findLast?_dirNamesByName (hl : IsOwner rules m l) :
    findLast? (ofModel rules m).dirNamesByName l.name =
      (lastOwner? rules m l.name).map (assigned rules m) := by
  obtain ⟨redirected, -, hnames, hduplicate⟩ := exists_redirected rules m
  have hnone : redirected.reverse.find? (fun x ↦ x.1.name == l.name) = none := by
    refine List.find?_eq_none.mpr fun x hx hname ↦ ?_
    have hdup := hduplicate x (List.mem_reverse.mp hx)
    rw [beq_iff_eq.mp hname, hl.isNoDuplicate] at hdup
    cases hdup
  rw [findLast?, hnames, ← List.map_reverse, List.find?_map, List.reverse_append, Function.comp_def,
    List.find?_append, hnone, Option.none_or, ← List.map_reverse, List.find?_map]
  simp [lastOwner?, Function.comp_def]

/-- An owner has the directory that is assigned to it. -/
theorem dirName_of_assigned (hl : IsOwner rules m l) (hne : assigned rules m l ≠ []) :
    (ofModel rules m).dirName l = assigned rules m l := by
  rw [dirName, find?_dirNames hl]
  simp [nonempty, hne]

/-- An owner that is assigned none has that of the last owner of its name. -/
theorem dirName_of_assigned_eq_nil (hl : IsOwner rules m l) (hnil : assigned rules m l = []) :
    ∃ last, lastOwner? rules m l.name = some last ∧
      (ofModel rules m).dirName l = assigned rules m last := by
  obtain ⟨last, hlast⟩ := Option.isSome_iff_exists.mp (isSome_lastOwner? hl)
  refine ⟨last, hlast, ?_⟩
  have hbase : plainDirName (ofModel rules m).rules (wantedDirName l) = [] :=
    ((assigned_eq_nil_iff hl).mp hnil).2
  rw [dirName, find?_dirNames hl, findLast?_dirNamesByName hl, hlast, hbase, hnil]
  by_cases hempty : assigned rules m last = []
  · simp [nonempty, hempty]
  · simp [nonempty, hempty]

/-! ### Clashes -/

/-- Why two owners come to one directory. -/
inductive Clash (rules : Settings.LibraryRules) (m : Model) (a b : Entity) : Prop
  /-- Both ask for it, and the names of their packages are the same. -/
  | owners (hbase : base rules a = base rules b) (howner : ownerName a = ownerName b)
  /-- One gets the name of its package in front, and the other asks for what this makes. -/
  | taken (hshared : IsShared rules m a) (halone : ¬IsShared rules m b)
      (hdir : prefixed rules a = base rules b)
  /-- Both get the names of their packages in front, and this makes the same. -/
  | joined (hfirst : IsShared rules m a) (hsecond : IsShared rules m b)
      (hbase : base rules a ≠ base rules b) (hdir : prefixed rules a = prefixed rules b)
  /-- One asks for no directory, and the last owner of its name has that of the other. -/
  | unnamed (halone : ¬IsShared rules m a) (hbase : base rules a = []) (last : Entity)
      (hlast : lastOwner? rules m a.name = some last)
      (hdir : assigned rules m last = assigned rules m b)

theorem prefixed_ne_nil : prefixed rules l ≠ [] := by simp [prefixed]

theorem isShared_of_base_eq (hb : IsOwner rules m b) (hne : a ≠ b)
    (hbase : base rules a = base rules b) : IsShared rules m a :=
  ⟨b, hb, hne.symm, hbase.symm⟩

/-- At most one owner is assigned no directory. -/
theorem assigned_ne_nil_of_ne (ha : IsOwner rules m a) (hb : IsOwner rules m b) (hne : a ≠ b)
    (hnil : assigned rules m a = []) : assigned rules m b ≠ [] := by
  intro hnil'
  obtain ⟨halone, hbase⟩ := (assigned_eq_nil_iff ha).mp hnil
  obtain ⟨-, hbase'⟩ := (assigned_eq_nil_iff hb).mp hnil'
  exact halone (isShared_of_base_eq hb hne (hbase.trans hbase'.symm))

theorem dirName_of_isShared (hl : IsOwner rules m l) (hshared : IsShared rules m l) :
    (ofModel rules m).dirName l = prefixed rules l := by
  have hassigned := assigned_of_isShared hl hshared
  rw [dirName_of_assigned hl (hassigned ▸ prefixed_ne_nil), hassigned]

theorem Clash.dirName_eq (h : Clash rules m a b) (ha : IsOwner rules m a) (hb : IsOwner rules m b)
    (hne : a ≠ b) : (ofModel rules m).dirName a = (ofModel rules m).dirName b := by
  cases h with
  | owners hbase howner =>
    rw [dirName_of_isShared ha (isShared_of_base_eq hb hne hbase),
      dirName_of_isShared hb (isShared_of_base_eq ha hne.symm hbase.symm), prefixed, prefixed,
      hbase, howner]
  | taken hshared halone hdir =>
    have hassigned := assigned_of_not_isShared hb halone
    have hassigned_ne : assigned rules m b ≠ [] := by
      rw [hassigned, ← hdir]
      exact prefixed_ne_nil
    rw [dirName_of_isShared ha hshared, dirName_of_assigned hb hassigned_ne, hassigned, hdir]
  | joined hfirst hsecond hbase hdir =>
    rw [dirName_of_isShared ha hfirst, dirName_of_isShared hb hsecond, hdir]
  | unnamed halone hbase last hlast hdir =>
    have hnil := (assigned_eq_nil_iff ha).mpr ⟨halone, hbase⟩
    obtain ⟨last', hlast', hname⟩ := dirName_of_assigned_eq_nil ha hnil
    obtain rfl : last = last' := Option.some.inj (hlast.symm.trans hlast')
    rw [hname, hdir, dirName_of_assigned hb (assigned_ne_nil_of_ne ha hb hne hnil)]

/-- Where an owner is assigned no directory, it comes to that of another one by its name. -/
theorem clash_of_assigned_eq_nil (ha : IsOwner rules m a) (hb : IsOwner rules m b) (hne : a ≠ b)
    (hnil : assigned rules m a = [])
    (hdir : (ofModel rules m).dirName a = (ofModel rules m).dirName b) : Clash rules m a b := by
  obtain ⟨halone, hbase⟩ := (assigned_eq_nil_iff ha).mp hnil
  obtain ⟨last, hlast, hname⟩ := dirName_of_assigned_eq_nil ha hnil
  rw [hname, dirName_of_assigned hb (assigned_ne_nil_of_ne ha hb hne hnil)] at hdir
  exact .unnamed halone hbase last hlast hdir

theorem clash_of_assigned_eq (ha : IsOwner rules m a) (hb : IsOwner rules m b) (hne : a ≠ b)
    (hdir : assigned rules m a = assigned rules m b) : Clash rules m a b ∨ Clash rules m b a := by
  by_cases hfirst : IsShared rules m a
  · rw [assigned_of_isShared ha hfirst] at hdir
    by_cases hsecond : IsShared rules m b
    · rw [assigned_of_isShared hb hsecond] at hdir
      by_cases hbase : base rules a = base rules b
      · rw [prefixed, prefixed, hbase, List.append_left_inj] at hdir
        exact Or.inl (.owners hbase hdir)
      · exact Or.inl (.joined hfirst hsecond hbase hdir)
    · rw [assigned_of_not_isShared hb hsecond] at hdir
      exact Or.inl (.taken hfirst hsecond hdir)
  · rw [assigned_of_not_isShared ha hfirst] at hdir
    by_cases hsecond : IsShared rules m b
    · rw [assigned_of_isShared hb hsecond] at hdir
      exact Or.inr (.taken hsecond hfirst hdir.symm)
    · rw [assigned_of_not_isShared hb hsecond] at hdir
      exact absurd (isShared_of_base_eq hb hne hdir) hfirst

/-- Two owners have one directory exactly if they clash, one way or the other. -/
theorem dirName_eq_iff (ha : IsOwner rules m a) (hb : IsOwner rules m b) (hne : a ≠ b) :
    (ofModel rules m).dirName a = (ofModel rules m).dirName b ↔
      Clash rules m a b ∨ Clash rules m b a := by
  constructor
  · intro hdir
    by_cases hanil : assigned rules m a = []
    · exact Or.inl (clash_of_assigned_eq_nil ha hb hne hanil hdir)
    · by_cases hbnil : assigned rules m b = []
      · exact Or.inr (clash_of_assigned_eq_nil hb ha hne.symm hbnil hdir.symm)
      · rw [dirName_of_assigned ha hanil, dirName_of_assigned hb hbnil] at hdir
        exact clash_of_assigned_eq ha hb hne hdir
  · rintro (h | h)
    · exact h.dirName_eq ha hb hne
    · exact (h.dirName_eq hb ha hne.symm).symm

/-! ### Files of pages -/

theorem not_mem_hyphenateFrom {p : Char → Bool} {c : Char} {inRun : Bool} {t : Text}
    (hc : p c = true) (hne : c ≠ '-') : c ∉ Naming.hyphenateFrom p inRun t := by
  induction t generalizing inRun with
  | nil => simp [Naming.hyphenateFrom]
  | cons d t ih =>
    rw [Naming.hyphenateFrom]
    by_cases hd : p d = true
    · cases inRun <;> simp [hd, hne, ih]
    · have hcd : c ≠ d := by
        rintro rfl
        exact hd hc
      simp [hd, hcd, ih]

/-- A text without the characters that a file cannot have in its name. -/
def IsSafeInFile (file : Text) : Prop := ∀ c ∈ file, Naming.isUnsafeInFile c = false

theorem IsSafeInFile.not_mem {c : Char} {file : Text} (h : IsSafeInFile file)
    (hc : Naming.isUnsafeInFile c = true) : c ∉ file := by
  intro hmem
  rw [h c hmem] at hc
  cases hc

theorem isSafeInFile_fileName (name : Text) : IsSafeInFile (Naming.fileName name) := by
  intro c hmem
  by_contra hc
  rw [Bool.not_eq_false] at hc
  have hne : c ≠ '-' := by
    rintro rfl
    cases hc
  exact not_mem_hyphenateFrom (by simp [hc]) hne (Text.mem_of_mem_trim hmem)

theorem isSafeInFile_of_all {t : Text} (h : t.all (!Naming.isUnsafeInFile ·) = true) :
    IsSafeInFile t := by
  intro c hc
  simpa using List.all_eq_true.mp h c hc

theorem isSafeInFile_kindSuffix (kind : Text) : IsSafeInFile (kindSuffix kind) := by
  have htable : ∀ x ∈ kindSuffixes, x.2.all (!Naming.isUnsafeInFile ·) = true := by decide
  rw [kindSuffix]
  cases hfind : kindSuffixes.find? (·.1 == kind) with
  | none => exact isSafeInFile_of_all (t := "element") (by decide)
  | some x => exact isSafeInFile_of_all (htable x (List.mem_of_find?_eq_some hfind))

theorem isSafeInFile_assignFileName (containers : List Text) (e : Entity) :
    IsSafeInFile (assignFileName containers e).1 := by
  have hfile := isSafeInFile_fileName e.name
  have hother {file : Text} (h : IsSafeInFile file) :
      IsSafeInFile (file ++ '-' :: kindSuffix e.kind) := by
    intro c hc
    rcases List.mem_append.mp hc with hc | hc
    · exact h c hc
    · rcases List.mem_cons.mp hc with rfl | hc
      · rfl
      · exact isSafeInFile_kindSuffix e.kind c hc
  unfold assignFileName
  by_cases hindex : (Text.lower (Naming.fileName e.name) == "index") = true
  · simp only [hindex, if_true]
    split
    · exact hother (hother hfile)
    · exact hother hfile
  · simp only [hindex, if_false, Bool.false_eq_true]
    split
    · exact hother hfile
    · exact hfile

/-- The names of the files of declarations are safe. -/
theorem isSafeInFile_of_find?_fileNames {place : Place} {file : Text}
    (hfile : find? (ofModel rules m).fileNames place = some file) : IsSafeInFile file := by
  obtain ⟨⟨_, file⟩, hfind, rfl⟩ := Option.map_eq_some_iff.mp hfile
  obtain ⟨⟨_, _, _⟩, hmem, heq⟩ := List.mem_map.mp (List.mem_of_find?_eq_some hfind)
  obtain ⟨library, -, hmem⟩ := List.mem_flatMap.mp hmem
  obtain ⟨e, -, hassigned⟩ := List.mem_map.mp hmem
  cases heq
  have hsafe := isSafeInFile_assignFileName (containerFiles library) e
  rwa [(Prod.mk.inj hassigned).2] at hsafe

theorem dirName_of_libraryDir? {loc : Location} {dir : Text}
    (hdir : loc.libraryDir? l = some dir) : loc.dirName l = dir := by
  unfold libraryDir? at hdir
  split at hdir
  · exact Option.some.inj hdir
  · cases hdir

theorem exists_file_of_pageFile? {e : Entity} {path : Text} (hlibrary : e.library? = some l)
    (hpath : (ofModel rules m).pageFile? e = some path) :
    ∃ file, IsSafeInFile file ∧ path = "api/" ++ (ofModel rules m).dirName l ++ '/' :: file := by
  rw [pageFile?, hlibrary] at hpath
  split at hpath
  · obtain ⟨library, hsome, hpath⟩ := Option.bind_eq_some_iff.mp hpath
    obtain rfl : l = library := Option.some.inj hsome
    obtain ⟨dir, hdir, hpath⟩ := Option.bind_eq_some_iff.mp hpath
    obtain ⟨file, hfile, hpath⟩ := Option.bind_eq_some_iff.mp hpath
    refine ⟨file, isSafeInFile_of_find?_fileNames hfile, ?_⟩
    rw [dirName_of_libraryDir? hdir, ← Option.some.inj hpath]
    simp
  · cases hpath

/-- A page of what is in a library, or of the library itself, is a file of its directory. -/
theorem exists_file_of_filePath? {e : Entity} {path : Text} (hlibrary : e.library? = some l)
    (hpath : (ofModel rules m).filePath? e = some path) :
    ∃ file, '/' ∉ file ∧ path = "api/" ++ (ofModel rules m).dirName l ++ '/' :: file := by
  have hdeclaration : ((ofModel rules m).pageFile? e).map (· ++ (".md" : Text)) = some path →
      ∃ file, '/' ∉ file ∧ path = "api/" ++ (ofModel rules m).dirName l ++ '/' :: file := by
    intro hpage
    obtain ⟨start, hstart, rfl⟩ := Option.map_eq_some_iff.mp hpage
    obtain ⟨file, hsafe, rfl⟩ := exists_file_of_pageFile? hlibrary hstart
    have hslash : '/' ∉ file := hsafe.not_mem rfl
    exact ⟨file ++ ".md", by simp [hslash], by simp⟩
  cases hnode : e.node with
  | package p | topic t => simp [Entity.library?, hnode] at hlibrary
  | member member => simp [filePath?, hnode] at hpath
  | container c | topLevel t =>
    simp only [filePath?, hnode] at hpath
    exact hdeclaration hpath
  | library lib =>
    obtain rfl : e = l := by simpa [Entity.library?, hnode] using hlibrary
    simp only [filePath?, hnode] at hpath
    split at hpath
    · cases hpath
    · obtain ⟨-, -, rfl⟩ := Option.map_eq_some_iff.mp hpath
      exact ⟨"index.md", by decide, by simp⟩

/-- What stands before the last slash is determined. -/
theorem append_slash_inj {dir dir' file file' : Text} (hfile : '/' ∉ file) (hfile' : '/' ∉ file')
    (heq : dir ++ '/' :: file = dir' ++ '/' :: file') : dir = dir' := by
  rcases List.append_eq_append_iff.mp heq with ⟨more, hdir, hrest⟩ | ⟨more, hdir, hrest⟩
  · cases more with
    | nil => rw [hdir, List.append_nil]
    | cons c more =>
      rw [(List.cons.inj hrest).2] at hfile
      simp at hfile
  · cases more with
    | nil => rw [hdir, List.append_nil]
    | cons c more =>
      rw [(List.cons.inj hrest).2] at hfile'
      simp at hfile'

/-- **Directories of libraries.** Two public libraries of local packages that duplicate no other one
have one directory exactly if they clash; only then can a page of one be the same file as a page of
the other. -/
theorem dirName_eq_iff_clash (ha : IsOwner rules m a) (hb : IsOwner rules m b) (hne : a ≠ b) :
    ((ofModel rules m).dirName a = (ofModel rules m).dirName b ↔
      Clash rules m a b ∨ Clash rules m b a) ∧
    ∀ x y path, x.library? = some a → y.library? = some b →
      (ofModel rules m).filePath? x = some path → (ofModel rules m).filePath? y = some path →
      Clash rules m a b ∨ Clash rules m b a := by
  refine ⟨dirName_eq_iff ha hb hne, fun x y path hx hy hpath hpath' ↦ ?_⟩
  obtain ⟨file, hfile, rfl⟩ := exists_file_of_filePath? hx hpath
  obtain ⟨file', hfile', heq⟩ := exists_file_of_filePath? hy hpath'
  have hdir := append_slash_inj hfile hfile' heq
  exact (dirName_eq_iff ha hb hne).mp (List.append_cancel_left hdir)

/-! ### Rivals -/

/-- A library with nothing in it. -/
def rival (name : Text) : Library := { name := name, dirName := dirNameOf name }

/-- A package in which the name of the package and that of one library make that of the other. -/
def alpha : Package := { name := "alpha", libraries := [rival "utils", rival "alpha_utils"] }

/-- A package with a library of the same name as one of the other package. -/
def beta : Package := { name := "beta", libraries := [rival "utils"] }

/-- The two packages together. -/
def rivals : Model := ⟨[alpha, beta], [], []⟩

/-- A library of one of the two packages. -/
def rivalAt (p i : Nat) (package : Package) (name : Text) : Entity :=
  ⟨.library p i, .library (rival name), [.package package]⟩

theorem localLibraries_rivals : localLibraries rivals =
    [rivalAt 0 0 alpha "utils", rivalAt 0 1 alpha "alpha_utils", rivalAt 1 0 beta "utils"] := rfl

/-- The two libraries of the first package share a directory. -/
theorem dirName_rivals :
    rivalAt 0 0 alpha "utils" ≠ rivalAt 0 1 alpha "alpha_utils" ∧
      (ofModel ⟨[], [], [], []⟩ rivals).dirName (rivalAt 0 0 alpha "utils") =
        (ofModel ⟨[], [], [], []⟩ rivals).dirName (rivalAt 0 1 alpha "alpha_utils") := by
  have howner : ∀ l ∈ localLibraries rivals, IsOwner ⟨[], [], [], []⟩ rivals l := by
    intro l hl
    refine ⟨hl, ?_, rfl⟩
    simp only [localLibraries_rivals, List.mem_cons, List.not_mem_nil, or_false] at hl
    rcases hl with rfl | rfl | rfl <;> rfl
  have hutils := howner (rivalAt 0 0 alpha "utils") (by simp [localLibraries_rivals])
  have hother := howner (rivalAt 0 1 alpha "alpha_utils") (by simp [localLibraries_rivals])
  have hbeta := howner (rivalAt 1 0 beta "utils") (by simp [localLibraries_rivals])
  have hshared : IsShared ⟨[], [], [], []⟩ rivals (rivalAt 0 0 alpha "utils") :=
    isShared_of_base_eq hbeta (fun heq ↦ by cases congrArg Entity.place heq) rfl
  have halone : ¬IsShared ⟨[], [], [], []⟩ rivals (rivalAt 0 1 alpha "alpha_utils") := by
    rintro ⟨l, hl, hne, hbase⟩
    have hmem := hl.mem
    simp only [localLibraries_rivals, List.mem_cons, List.not_mem_nil, or_false] at hmem
    rcases hmem with rfl | rfl | rfl
    · cases hbase
    · exact hne rfl
    · cases hbase
  have hne : rivalAt 0 0 alpha "utils" ≠ rivalAt 0 1 alpha "alpha_utils" := fun heq ↦ by
    cases congrArg Entity.place heq
  exact ⟨hne, (dirName_eq_iff_clash hutils hother hne).1.mpr (Or.inl (.taken hshared halone rfl))⟩

end ApiSite.Location
