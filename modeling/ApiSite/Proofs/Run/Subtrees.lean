import ApiSite.Proofs.Run.Pages
import ApiSite.Proofs.Run.Rerun

/-!
# Where pages are written

The pages of a site belong below the directories `api` and `topics`. The names of declarations and
topics are made safe before they become names of files, but the directories of libraries are taken
as they are, with all their steps up. So a library keeps its pages where they belong exactly if the
walk along its directory ends there (`pages_below_iff`); a directory without steps up does
(`prefix_libraryPlace`).
-/

set_option autoImplicit false

namespace ApiSite

open Model Output Location

variable {root p : Path} {dir file path : Text} {parts : List Text}

namespace Output.Path

/-! ### Walks -/

theorem walk_append (p : Path) (a b : List Text) : walk p (a ++ b) = walk (walk p a) b := by
  induction a generalizing p with
  | nil => rfl
  | cons part a ih =>
    rw [List.cons_append, walk, walk]
    split
    · exact ih p
    · split
      · exact ih _
      · exact ih _

theorem walk_name {name : Text} (hhere : isHere name = false) (hup : name ≠ ['.', '.']) (p : Path) :
    walk p [name] = p ++ [name] := by
  rw [walk, hhere, if_neg Bool.false_ne_true, if_neg (by simpa using hup), walk]

/-- Without steps up a walk does not leave the place where it begins. -/
theorem prefix_walk (hparts : ['.', '.'] ∉ parts) (p : Path) : p <+: walk p parts := by
  induction parts generalizing p with
  | nil => exact List.prefix_rfl
  | cons part parts ih =>
    rw [List.mem_cons, not_or] at hparts
    rw [walk]
    split
    · exact ih hparts.2 p
    · rw [if_neg (by simpa using Ne.symm hparts.1)]
      exact (List.prefix_append p [part]).trans (ih hparts.2 _)

end Output.Path

namespace Run

variable {site : Site} {rules : Settings.LibraryRules} {e l : Entity}

/-! ### The places of pages -/

/-- Where a path leads from a directory on, if there are no links. -/
def place (root : Path) (path : Text) : Path :=
  Path.walk (Path.startOf path root) (Text.splitOn '/' path)

/-- An output without links follows a path to this place. -/
theorem follow_eq_place {o : Output} (hlinks : o.disk.HasNoLinks) (path : Text) :
    o.follow path = .ok (place o.root path) := by
  rw [follow_of_hasNoLinks hlinks, place]

/-- The directories that pages belong below. -/
def IsInSubtree (root p : Path) : Prop :=
  Path.isBelow (root ++ [("api" : Text)]) p = true ∨
    Path.isBelow (root ++ [("topics" : Text)]) p = true

/-- The directory that the pages of a library are in, from the root on. -/
def libraryPlace (site : Site) (root : Path) (l : Entity) : Path :=
  Path.walk (root ++ [("api" : Text)]) (Text.splitOn '/' (site.location.dirName l))

/-- A library whose directory has no steps up keeps its pages below `api`. -/
theorem prefix_libraryPlace (hup : ['.', '.'] ∉ Text.splitOn '/' (site.location.dirName l))
    (root : Path) : root ++ [("api" : Text)] <+: libraryPlace site root l := Path.prefix_walk hup _

theorem place_append (hdir : dir ≠ []) (hfile : '/' ∉ file)
    (hname : endsInName (dir ++ '/' :: file) = true) :
    place root (dir ++ '/' :: file) = place root dir ++ [file] := by
  have hsplit : Text.splitOn '/' (dir ++ '/' :: file) = Text.splitOn '/' dir ++ [file] := by
    rw [Text.splitOn_append_cons, Text.splitOn_eq_singleton hfile]
  have hlast : lastName (dir ++ '/' :: file) = file := by
    rw [lastName, hsplit, List.getLast?_concat, Option.getD_some]
  have hstart : Path.startOf (dir ++ '/' :: file) root = Path.startOf dir root := by
    rw [Path.startOf, Path.startOf, List.head?_append_of_ne_nil _ hdir]
  rw [endsInName, hlast, Bool.and_eq_true, Bool.not_eq_true', bne_iff_ne] at hname
  rw [place, hstart, hsplit, Path.walk_append, Path.walk_name hname.1 hname.2, place]

/-- A file is below a directory exactly if the directory around it is, or is that one. -/
theorem isBelow_concat_iff {base : Path} : Path.isBelow base (p ++ [file]) = true ↔ base <+: p := by
  rw [Path.isBelow_iff_prefix_dropLast (List.append_ne_nil_of_right_ne_nil _ (by simp)),
    List.dropLast_concat]

theorem isInSubtree_concat_iff : IsInSubtree root (p ++ [file]) ↔
    root ++ [("api" : Text)] <+: p ∨ root ++ [("topics" : Text)] <+: p :=
  or_congr isBelow_concat_iff isBelow_concat_iff

/-- The page of a library, or of what is in it, is in the directory of the library. -/
theorem place_of_library (hlocation : site.location = ofModel rules site.model)
    (hlibrary : e.library? = some l) (hpath : site.location.filePath? e = some path)
    (root : Path) : ∃ file, place root path = libraryPlace site root l ++ [file] := by
  obtain ⟨name, hmarkdown⟩ := exists_markdown_of_filePath? hpath
  have hname := (endsInName_markdown name).1
  rw [← hmarkdown] at hname
  rw [hlocation] at hpath
  obtain ⟨file, hfile, rfl⟩ := exists_file_of_filePath? hlibrary hpath
  rw [← hlocation] at hname ⊢
  have hdir : ("api/" ++ site.location.dirName l : Text) =
      "api" ++ '/' :: site.location.dirName l := rfl
  refine ⟨file, ?_⟩
  rw [place_append (by simp) hfile hname, hdir, place, Text.splitOn_append_cons,
    Path.walk_append]
  rfl

theorem place_of_topic {package : Entity} (he : e ∈ package.topics)
    (hpath : site.location.filePath? e = some path) (root : Path) :
    ∃ file, place root path = root ++ [("topics" : Text)] ++ [file] := by
  rw [filePath?_topic he] at hpath
  obtain rfl := Option.some.inj hpath
  have hsplit : ("topics/" ++ Naming.fileName e.name ++ ".md" : Text) =
      "topics" ++ '/' :: (Naming.fileName e.name ++ ".md") := by simp
  have hslash : '/' ∉ Naming.fileName e.name ++ ".md".toList := by
    rw [List.mem_append, not_or]
    exact ⟨(isSafeInFile_fileName e.name).not_mem rfl, by decide⟩
  have hname := (endsInName_markdown ("topics/" ++ Naming.fileName e.name)).1
  refine ⟨Naming.fileName e.name ++ ".md", ?_⟩
  rw [hsplit] at hname ⊢
  rw [place_append (by decide) hslash hname]
  rfl

/-- **Pages below their directories.** All pages are written below `api` and `topics` exactly if the
walk along the directory of each library that can be navigated to ends in one of these, or below. -/
theorem pages_below_iff (hlocation : site.location = ofModel rules site.model) (root : Path) :
    (∀ job ∈ pageJobs site, IsInSubtree root (place root job.path)) ↔
      ∀ p ∈ site.model.localPackages, ∀ l ∈ site.location.navigableLibraries p,
        root ++ [("api" : Text)] <+: libraryPlace site root l ∨
          root ++ [("topics" : Text)] <+: libraryPlace site root l := by
  constructor
  · intro hpages p hp l hl
    obtain ⟨path, hpath⟩ := exists_filePath?_of_navigable hp hl
    have hentity : l ∈ pageEntities site :=
      mem_pageEntities.mpr ⟨p, hp, Or.inl ⟨l, hl, by simp [hpath], Or.inl rfl⟩⟩
    obtain ⟨job, hjob, rfl⟩ :=
      List.mem_map.mp (mem_map_path_pageJobs.mpr (Or.inr ⟨l, hentity, hpath⟩))
    obtain ⟨file, hplace⟩ := place_of_library hlocation
      (Entity.library?_of_mem_libraries (mem_navigableLibraries.mp hl).1) hpath root
    have hbelow := hpages job hjob
    rwa [hplace, isInSubtree_concat_iff] at hbelow
  · intro hlibraries job hjob
    rcases mem_map_path_pageJobs.mp (List.mem_map_of_mem hjob) with hroot | ⟨e, he, hpath⟩
    · have hplace : place root "api/index.md" = root ++ [("api" : Text)] ++ [("index.md" : Text)] :=
        rfl
      rw [hroot, hplace, isInSubtree_concat_iff]
      exact Or.inl List.prefix_rfl
    · obtain ⟨p, hp, ⟨l, hl, -, hcase⟩ | ⟨ht, -⟩⟩ := mem_pageEntities.mp he
      · have hmem := (mem_navigableLibraries.mp hl).1
        have hlibrary : e.library? = some l := by
          rcases hcase with rfl | ⟨he, -⟩
          · exact Entity.library?_of_mem_libraries hmem
          · exact Entity.library?_of_mem_declarations he
        obtain ⟨file, hplace⟩ := place_of_library hlocation hlibrary hpath root
        rw [hplace, isInSubtree_concat_iff]
        exact hlibraries p hp l hl
      · obtain ⟨file, hplace⟩ := place_of_topic ht hpath root
        rw [hplace, isInSubtree_concat_iff]
        exact Or.inr List.prefix_rfl

/-! ### A library that climbs -/

/-- A library with a class, whose directory is that of the guide. -/
def climbingLibrary : Library :=
  { name := "kit", dirName := "../guide", containers := [{ name := "Apple", kind := "class" }] }

/-- A site of this library alone. -/
def climbingSite : Site :=
  let model : Model := ⟨[{ name := "kit", libraries := [climbingLibrary] }], [], []⟩
  ⟨model, ofModel ⟨[], [], [], []⟩ model, .of [] [], [], 80, none⟩

/-- The page of the library takes the place of the guide. -/
theorem not_pages_below_climbing :
    climbingSite.location = ofModel ⟨[], [], [], []⟩ climbingSite.model ∧
      ¬∀ job ∈ pageJobs climbingSite, IsInSubtree [[]] (place [[]] job.path) := by
  have hlocation : climbingSite.location = ofModel ⟨[], [], [], []⟩ climbingSite.model := rfl
  refine ⟨hlocation, fun hpages ↦ ?_⟩
  have hlibraries := (pages_below_iff hlocation [[]]).mp hpages
  revert hlibraries
  decide +kernel

/-- The pages of the site, and where they lead. -/
example : (pageJobs climbingSite).map (fun job ↦ Path.toText (place [[]] job.path)) =
    Text.ofStrings ["/api/index.md", "/guide/index.md", "/guide/Apple.md"] := by
  decide +kernel

end Run

end ApiSite
