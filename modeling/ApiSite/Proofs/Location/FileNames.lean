import ApiSite.Proofs.Location.Addresses

/-!
# Names of files

A name becomes that of a file in three steps: its type arguments are cut off, runs of hyphens and of
characters that files cannot have become one hyphen each, and the ends lose their hyphens. Each step
keeps what the ones before have reached: the hyphens that stand for runs do not meet
(`isChain_hyphenateFrom`), and to trim a text brings no characters together. What comes out is
`IsFileName`, and a text is left as it is exactly if it is that already (`fileName_eq_self_iff`).

Pages have these names, with the words for kinds behind some of them. So the path of a page has one
part more than that of the directory of its library, whatever the declaration is called
(`isPageIn_filePath?`).
-/

set_option autoImplicit false

namespace ApiSite

namespace Naming

variable {p : Char → Bool} {inRun : Bool} {t file : Text}

/-! ### Runs of hyphens -/

theorem head?_hyphenateFrom (hp : p '-' = true) : (hyphenateFrom p true t).head? ≠ some '-' := by
  induction t with
  | nil => simp [hyphenateFrom]
  | cons c t ih =>
    rw [hyphenateFrom]
    split
    · exact ih
    · next hc =>
      rw [List.head?_cons, ne_eq, Option.some.injEq]
      rintro rfl
      exact hc hp

/-- Of the hyphens that stand for runs no two stand side by side. -/
theorem isChain_hyphenateFrom (hp : p '-' = true) (inRun : Bool) (t : Text) :
    (hyphenateFrom p inRun t).IsChain fun a b ↦ ¬(a = '-' ∧ b = '-') := by
  induction t generalizing inRun with
  | nil => exact .nil
  | cons c t ih =>
    rw [hyphenateFrom]
    split
    · split
      · exact ih true
      · refine List.isChain_cons.mpr ⟨fun d hd hboth ↦ ?_, ih true⟩
        obtain ⟨-, rfl⟩ := hboth
        exact head?_hyphenateFrom hp hd
    · next hc =>
      refine List.isChain_cons.mpr ⟨fun d _ hboth ↦ ?_, ih false⟩
      obtain ⟨rfl, -⟩ := hboth
      exact hc hp

/-- Where hyphens stand alone, and no other character is to be replaced, nothing is. -/
theorem hyphenateFrom_eq_self (ht : ∀ c ∈ t, p c = true → c = '-')
    (hsingle : t.IsChain fun a b ↦ ¬(a = '-' ∧ b = '-')) (hp : p '-' = true)
    (hstart : inRun = true → t.head? ≠ some '-') : hyphenateFrom p inRun t = t := by
  induction t generalizing inRun with
  | nil => rfl
  | cons c t ih =>
    obtain ⟨hfirst, hrest⟩ := List.isChain_cons.mp hsingle
    have hlater : ∀ d ∈ t, p d = true → d = '-' := fun d hd ↦ ht d (List.mem_cons_of_mem c hd)
    rw [hyphenateFrom]
    by_cases hc : p c = true
    · obtain rfl := ht c List.mem_cons_self hc
      have hout : inRun ≠ true := fun hrun ↦ hstart hrun rfl
      rw [if_pos hp, if_neg hout, ih hlater hrest fun _ hhead ↦ hfirst _ hhead ⟨rfl, rfl⟩]
    · rw [if_neg hc, ih hlater hrest fun hrun ↦ absurd hrun Bool.false_ne_true]

/-! ### Names of files -/

/-- The characters that no file has in its name. -/
def forbidden : Text := ":<>|?*\"/\\"

/-- A name that a file can have and that needs no change: it has none of the forbidden characters,
no two hyphens in a row, and no hyphen at its ends. -/
structure IsFileName (file : Text) : Prop where
  safe : ∀ c ∈ forbidden, c ∉ file
  single : file.IsChain fun a b ↦ ¬(a = '-' ∧ b = '-')
  start : file.head? ≠ some '-'
  stop : file.getLast? ≠ some '-'

theorem isUnsafeInFile_iff {c : Char} : isUnsafeInFile c = true ↔ c ∈ forbidden :=
  List.contains_iff_mem

theorem not_mem_of_isSafeInFile {c : Char} (hfile : Location.IsSafeInFile file)
    (hc : c ∈ forbidden) : c ∉ file :=
  hfile.not_mem (isUnsafeInFile_iff.mpr hc)

theorem isFileName_fileName (name : Text) : IsFileName (fileName name) where
  safe _ := not_mem_of_isSafeInFile (Location.isSafeInFile_fileName name)
  single := by
    have hchain : (hyphenate isUnsafeInFile (withoutTypeArguments name)).IsChain
        fun a b ↦ ¬(a = '-' ∧ b = '-') := isChain_hyphenateFrom rfl false _
    obtain ⟨before, after, htrim, -, -⟩ := Text.exists_eq_append_trim (· == '-')
      (hyphenate isUnsafeInFile (withoutTypeArguments name))
    rw [htrim] at hchain
    exact hchain.left_of_append.right_of_append
  start h := by simpa using Text.head?_trim h
  stop h := by simpa using Text.getLast?_trim h

/-- The names that need no change are those that are not changed. -/
theorem fileName_eq_self_iff : fileName file = file ↔ IsFileName file := by
  refine ⟨fun h ↦ h ▸ isFileName_fileName file, fun h ↦ ?_⟩
  have harguments : withoutTypeArguments file = file :=
    Text.takeWhile_ne_eq_self (h.safe '<' (by decide))
  have hclass : ∀ c ∈ file, (c == '-' || isUnsafeInFile c) = true → c = '-' := by
    intro c hc hclass
    rcases Bool.or_eq_true_iff.mp hclass with heq | hunsafe
    · exact beq_iff_eq.mp heq
    · exact absurd hc (h.safe c (isUnsafeInFile_iff.mp hunsafe))
  have hruns : hyphenate isUnsafeInFile file = file :=
    hyphenateFrom_eq_self hclass h.single rfl fun hrun ↦ absurd hrun Bool.false_ne_true
  rw [fileName, harguments, hruns]
  refine Text.trim_eq_self (fun c hc ↦ ?_) fun c hc ↦ ?_
  · rw [beq_eq_false_iff_ne]
    rintro rfl
    exact h.start hc
  · rw [beq_eq_false_iff_ne]
    rintro rfl
    exact h.stop hc

/-- Nothing from the first bracket on counts. -/
theorem fileName_append_bracket (before rest : Text) :
    fileName (before ++ '<' :: rest) = fileName before := by
  have harguments : withoutTypeArguments (before ++ '<' :: rest) = withoutTypeArguments before := by
    rw [withoutTypeArguments, withoutTypeArguments, List.takeWhile_append,
      List.takeWhile_cons_of_neg (by decide), List.append_nil]
    split
    · next hlength => exact ((List.takeWhile_prefix _).eq_of_length hlength).symm
    · rfl
  rw [fileName, harguments, fileName]

end Naming

namespace Location

open Model

variable {rules : Settings.LibraryRules} {m : Model} {l e : Entity} {path : Text}

/-! ### Paths of pages -/

/-- A path has one part more than that of a directory: a name without forbidden characters, with the
ending of pages behind it. -/
def IsPageIn (dir path : Text) : Prop :=
  ∃ file : Text, (∀ c ∈ Naming.forbidden, c ∉ file) ∧
    Text.splitOn '/' path = Text.splitOn '/' dir ++ [file ++ ".md"]

theorem isPageIn_filePath? (he : e ∈ l.containers ++ l.topLevel)
    (hpath : (ofModel rules m).filePath? e = some path) :
    IsPageIn ("api/" ++ (ofModel rules m).dirName l) path := by
  rw [filePath?_declaration he] at hpath
  obtain ⟨start, hstart, rfl⟩ := Option.map_eq_some_iff.mp hpath
  obtain ⟨file, hsafe, rfl⟩ :=
    exists_file_of_pageFile? (Entity.library?_of_mem_declarations he) hstart
  have hslash : '/' ∉ file ++ ".md".toList :=
    List.not_mem_append (hsafe.not_mem rfl) (by decide)
  refine ⟨file, fun _ ↦ Naming.not_mem_of_isSafeInFile hsafe, ?_⟩
  rw [List.append_assoc, List.cons_append, Text.splitOn_append_cons,
    Text.splitOn_eq_singleton hslash]

/-- **Names of files.** The file name for a name has no forbidden character, no two hyphens in a row
and no hyphen at its ends, and it is the file name for itself; the texts that are so are just those
that are left as they are. What follows the first bracket of a name makes no difference. So the path
of a declaration's page is that of the directory of its library with one part behind it, whatever
the declaration is called. -/
theorem file_names_plain (rules : Settings.LibraryRules) (m : Model) :
    (∀ name, Naming.IsFileName (Naming.fileName name) ∧
      Naming.fileName (Naming.fileName name) = Naming.fileName name) ∧
    (∀ file, Naming.fileName file = file ↔ Naming.IsFileName file) ∧
    (∀ before rest rest', Naming.fileName (before ++ '<' :: rest) =
      Naming.fileName (before ++ '<' :: rest')) ∧
    ∀ l e : Entity, e ∈ l.containers ++ l.topLevel →
      ∀ path, (ofModel rules m).filePath? e = some path →
        IsPageIn ("api/" ++ (ofModel rules m).dirName l) path := by
  refine ⟨fun name ↦ ?_, fun file ↦ Naming.fileName_eq_self_iff, fun before rest rest' ↦ ?_,
    fun l e he path ↦ isPageIn_filePath? he⟩
  · have hname := Naming.isFileName_fileName name
    exact ⟨hname, Naming.fileName_eq_self_iff.mpr hname⟩
  · rw [Naming.fileName_append_bracket, Naming.fileName_append_bracket]

/-! ### A name that is a path -/

/-- A class whose name leads two directories up and has an operator in it. -/
def pathClass : Container := { name := "../../a--b/<T>", kind := "class" }

def pathLibrary : Library := { name := "kit", dirName := "kit", containers := [pathClass] }

def pathPackage : Package := { name := "kit", libraries := [pathLibrary] }

def pathModel : Model := ⟨[pathPackage], [], "kit"⟩

def pathLibraryEntity : Entity := ⟨.library 0 0, .library pathLibrary, [.package pathPackage]⟩

def pathEntity : Entity := pathLibraryEntity.within (.container 0 0 0) (.container pathClass)

/-- The page of the class is in the directory of its library. -/
theorem file_names_plain_path :
    pathEntity ∈ pathLibraryEntity.containers ++ pathLibraryEntity.topLevel ∧
    (ofModel ⟨[], [], [], []⟩ pathModel).filePath? pathEntity =
      some "api/kit/..-..-a-b.md".toList ∧
    IsPageIn ("api/" ++ (ofModel ⟨[], [], [], []⟩ pathModel).dirName pathLibraryEntity)
      "api/kit/..-..-a-b.md" := by
  have hmem : pathEntity ∈ pathLibraryEntity.containers ++ pathLibraryEntity.topLevel :=
    List.mem_cons_self
  have hpath : (ofModel ⟨[], [], [], []⟩ pathModel).filePath? pathEntity =
      some "api/kit/..-..-a-b.md".toList := by
    decide +kernel
  obtain ⟨-, -, -, hparts⟩ := file_names_plain ⟨[], [], [], []⟩ pathModel
  exact ⟨hmem, hpath, hparts _ _ hmem _ hpath⟩

end Location

end ApiSite
