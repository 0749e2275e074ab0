import ApiSite.Proofs.Output.Idle
import ApiSite.Proofs.Quotation

/-!
# Imports that are put into files

A patch gives a file an import that it lacks: a new line behind the last import of the file, or in
front of all lines. `InsertsImport` says what this leaves of the file, which is every character of
it, whatever ends its lines. A patch reads the file with its line ends unified, though, and writes
it that way. So it inserts into the text with unified line ends (`insertsImport_unlines`), and this
keeps the file exactly if no line of it ends in a carriage return (`patchImport_keeps_rest_iff`).

The file with the import has the line, so a second patch has nothing to do. That its path still
leads to the file follows without regard to symbolic links: where a file is replaced by a file, all
links are what they were (`locate_set`).
-/

set_option autoImplicit false

namespace ApiSite.Output

variable {o : Output} {d : Disk} {p q : Path} {line text text' t : Text}

/-! ### Imports between the lines of a text -/

/-- A line end of any kind. -/
def IsLineEnd (eol : Text) : Prop := eol = "\n" ∨ eol = "\r\n" ∨ eol = "\r"

/-- No line of a text begins an import. -/
def HasNoImport (text : Text) : Prop :=
  ∀ l ∈ Text.lines (Text.unifyLineEnds text), Text.startsWith "import " l = false

/-- The second text is the first one with a new line in it: behind the last line that begins an
import, or in front of all where none does. All characters stay, line ends included. -/
inductive InsertsImport (line : Text) : Text → Text → Prop
  | inFront {text eol : Text} (hnone : HasNoImport text) (heol : IsLineEnd eol) :
    InsertsImport line text (line ++ eol ++ text)
  | behind {before last after eol : Text} (hbefore : ∀ c ∈ before.getLast?, IsBreak c)
    (hlast : IsOneLine last) (himport : Text.startsWith "import " last = true)
    (hafter : ∀ c ∈ after.head?, IsBreak c) (hnone : HasNoImport after) (heol : IsLineEnd eol) :
    InsertsImport line (before ++ last ++ after) (before ++ last ++ (eol ++ line) ++ after)

/-- Nothing of the first text is lost. -/
theorem InsertsImport.sublist (h : InsertsImport line text text') : text.Sublist text' := by
  cases h with
  | inFront hnone heol => exact List.sublist_append_right _ _
  | @behind before last after eol =>
    exact (List.sublist_append_left _ _).append_right after

/-- The lines up to the last import, and those behind it. -/
theorem exists_insertImport_eq (line : Text) (lines : List Text) : ∃ front rest,
    lines = front ++ rest ∧ insertImport line lines = front ++ line :: rest ∧
      (∀ l ∈ rest, Text.startsWith "import " l = false) ∧
      ∀ l ∈ front.getLast?, Text.startsWith "import " l = true := by
  let isOther (l : Text) : Bool := !Text.startsWith "import " l
  have hsplit : lines = (lines.reverse.dropWhile isOther).reverse ++
      (lines.reverse.takeWhile isOther).reverse := by
    rw [← List.reverse_append, List.takeWhile_append_dropWhile, List.reverse_reverse]
  refine ⟨_, _, hsplit, ?_, fun l hl ↦ ?_, fun l hl ↦ ?_⟩
  · have htake := congrArg (List.take (lines.reverse.dropWhile isOther).reverse.length) hsplit
    have hlength := congrArg List.length hsplit
    rw [List.take_left] at htake
    rw [List.length_append] at hlength
    rw [insertImport, ← htake, hlength, Nat.add_sub_cancel]
  · simpa [isOther] using List.mem_takeWhile_imp (List.mem_reverse.mp hl)
  · have hhead := List.head?_dropWhile_not isOther lines.reverse
    rw [← List.getLast?_reverse, Option.mem_def.mp hl] at hhead
    simpa [isOther] using hhead

/-- The line in the middle of others, with the line ends before and behind it. -/
theorem unlines_append_cons (before : List Text) (l : Text) (after : List Text) :
    Text.unlines (before ++ l :: after) =
      before.flatMap (· ++ ['\n']) ++ l ++ Text.unlines ([] :: after) := by
  rw [Text.unlines, Text.unlines, Text.join_cons _ [], List.nil_append]
  cases before with
  | nil => rw [List.nil_append, Text.join_cons, List.flatMap_nil, List.nil_append]
  | cons first before =>
    rw [Text.join_append (List.cons_ne_nil _ _) (List.cons_ne_nil _ _), Text.join_cons _ l,
      ← Text.join_append_sep (List.cons_ne_nil _ _)]
    simp only [List.append_assoc]

theorem isBreak_getLast?_flatMap {ls : List Text} {c : Char}
    (hc : c ∈ (ls.flatMap (· ++ ['\n'])).getLast?) : IsBreak c := by
  obtain rfl | ⟨before, l, rfl⟩ := List.eq_nil_or_concat ls
  · cases hc
  · rw [Option.mem_def, List.concat_eq_append, List.flatMap_append, List.flatMap_singleton,
      ← List.append_assoc, List.getLast?_concat] at hc
    exact Or.inl (Option.some.inj hc).symm

theorem isBreak_head?_unlines {ls : List Text} {c : Char}
    (hc : c ∈ (Text.unlines ([] :: ls)).head?) : IsBreak c := by
  cases ls with
  | nil => cases hc
  | cons l ls => exact Or.inl (Option.some.inj hc).symm

theorem hasNoImport_unlines {ls : List Text} (hlines : ∀ l ∈ ls, IsOneLine l)
    (hnone : ∀ l ∈ ls, Text.startsWith "import " l = false) :
    HasNoImport (Text.unlines ([] :: ls)) := by
  have hreturn : '\r' ∉ Text.unlines ([] :: ls) := by
    intro hmem
    rcases Text.mem_of_mem_join hmem with hsep | ⟨l, hl, hmem⟩
    · cases List.mem_singleton.mp hsep
    · rcases List.mem_cons.mp hl with rfl | hl
      · cases hmem
      · exact hlines l hl _ hmem (Or.inr rfl)
  have hfeed : ∀ l ∈ ([] : Text) :: ls, '\n' ∉ l := by
    refine List.forall_mem_cons.mpr ⟨List.not_mem_nil, fun l hl hmem ↦ ?_⟩
    exact hlines l hl _ hmem (Or.inl rfl)
  rw [HasNoImport, Text.unifyLineEnds_eq_self hreturn, Text.lines,
    Text.splitOn_join (List.cons_ne_nil _ _) hfeed]
  exact List.forall_mem_cons.mpr ⟨rfl, hnone⟩

theorem isOneLine_of_mem_lines (hreturn : '\r' ∉ text) {l : Text} (hl : l ∈ Text.lines text) :
    IsOneLine l := by
  rintro c hc (rfl | rfl)
  · exact Text.not_mem_of_mem_splitOn hl hc
  · exact hreturn (Text.mem_of_mem_splitOn hl hc)

/-- A text without carriage returns that gets an import by lines. -/
theorem insertsImport_unlines (hreturn : '\r' ∉ text) (line : Text) :
    InsertsImport line text (Text.unlines (insertImport line (Text.lines text))) := by
  obtain ⟨front, rest, hlines, hinsert, hrest, hfront⟩ :=
    exists_insertImport_eq line (Text.lines text)
  have honeLine : ∀ l ∈ front ++ rest, IsOneLine l := fun l hl ↦
    isOneLine_of_mem_lines hreturn (hlines ▸ hl)
  have htext : text = Text.unlines (front ++ rest) := by
    rw [← hlines]
    exact (Text.join_splitOn '\n' text).symm
  rw [hinsert]
  obtain rfl | ⟨before, last, rfl⟩ := List.eq_nil_or_concat front
  · have hne : rest ≠ [] := fun hnil ↦ Text.splitOn_ne_nil '\n' text (hlines.trans hnil)
    have hshape : Text.unlines ([] ++ line :: rest) = line ++ "\n" ++ text := by
      rw [htext, List.nil_append, List.append_assoc]
      exact Text.join_append (List.cons_ne_nil line []) hne
    rw [hshape]
    refine .inFront ?_ (Or.inl rfl)
    rw [HasNoImport, Text.unifyLineEnds_eq_self hreturn, hlines]
    exact hrest
  · rw [List.concat_eq_append, List.append_assoc] at htext honeLine
    rw [List.concat_eq_append, List.getLast?_concat] at hfront
    have hshape : Text.unlines (before ++ [last] ++ line :: rest) =
        before.flatMap (· ++ ['\n']) ++ last ++ (['\n'] ++ line) ++ Text.unlines ([] :: rest) := by
      rw [List.append_assoc, List.singleton_append, unlines_append_cons]
      simp [Text.join_cons]
    rw [List.concat_eq_append, hshape, htext, List.singleton_append, unlines_append_cons]
    refine .behind (fun c hc ↦ isBreak_getLast?_flatMap hc) (honeLine last (by simp))
      (hfront last rfl) (fun c hc ↦ isBreak_head?_unlines hc) ?_ (Or.inl rfl)
    exact hasNoImport_unlines (fun l hl ↦ honeLine l (by simp [hl])) hrest

/-- The text that a patch writes. -/
def patched (line text : Text) : Text :=
  Text.unlines (insertImport line (Text.lines (Text.unifyLineEnds text)))

/-- A patch inserts into the text with unified line ends. -/
theorem insertsImport_patched (line text : Text) :
    InsertsImport line (Text.unifyLineEnds text) (patched line text) :=
  insertsImport_unlines (Text.not_mem_unifyLineEnds text) line

/-- Of the text itself all is kept exactly if it has no carriage return. -/
theorem insertsImport_patched_iff (hreturn : '\r' ∉ line) :
    InsertsImport line text (patched line text) ↔ '\r' ∉ text := by
  constructor
  · intro hkeeps hmem
    exact return_not_mem_insertImport hreturn text (hkeeps.sublist.subset hmem)
  · intro hplain
    have hinserts := insertsImport_patched line text
    rwa [Text.unifyLineEnds_eq_self hplain] at hinserts

/-! ### Where a file is replaced by a file -/

theorem countP_assign_file {isLink : Path × Entry → Bool}
    (hlink : ∀ q t, isLink (q, .file t) = false) {l : List (Path × Entry)}
    (hfile : Disk.find? ⟨l⟩ p = some (.file t)) (t' : Text) :
    (Disk.assign p (.file t') l).countP isLink = l.countP isLink := by
  induction l with
  | nil => cases hfile
  | cons head rest ih =>
    obtain ⟨q, e⟩ := head
    rw [Disk.assign]
    split
    · next hq =>
      obtain rfl : e = .file t := by simpa [Disk.find?, hq] using hfile
      simp [hlink]
    · next hq =>
      rw [List.countP_cons, List.countP_cons, ih (by simpa [Disk.find?, hq] using hfile)]

theorem link?_set_file (hfile : d.find? p = some (.file t)) (t' : Text) :
    (d.set p (.file t')).link? = d.link? := by
  funext q
  rw [Disk.link?, Disk.link?, Disk.find?_set]
  by_cases hq : q = p
  · rw [if_pos hq, hq, hfile]
  · rw [if_neg hq]

/-- The output once an import has been put into a file, which has then become another text. -/
def restored (o : Output) (p : Path) (line text' : Text) : Output :=
  say (.lineRestored p line) { o with disk := o.disk.set p (.file text') }

/-- Paths still lead where they did. -/
theorem locate_restored (hfile : o.disk.find? p = some (.file text)) (line text' path : Text) :
    (o.restored p line text').locate path = o.locate path := by
  have hlinkAt : (o.restored p line text').linkAt? = o.linkAt? := by
    funext q
    exact congrArg (Option.bind _) (link?_set_file hfile text')
  have hcount : (o.restored p line text').linkCount = o.linkCount :=
    countP_assign_file (fun _ _ ↦ rfl) hfile text'
  have hfollow : (o.restored p line text').follow path = o.follow path := by
    rw [follow, follow, hlinkAt, hcount]
    rfl
  rw [locate, locate, hfollow]
  rfl

/-- The file is found with its new text. -/
theorem look_restored (hlook : o.look p = .ok (some (.file text))) (line text' : Text) :
    (o.restored p line text').look p = .ok (some (.file text')) := by
  have hfound : (o.restored p line text').disk.find? p = some (.file text') := by
    rw [restored, say, Disk.find?_set, if_pos rfl]
  have hopen : ¬(isTooLong p && (o.restored p line text').disk.isDir (reach p)) = true := by
    intro hlong
    obtain ⟨hlong, hdir⟩ := Bool.and_eq_true _ _ ▸ hlong
    have hne : reach p ≠ p := by simpa [isTooLong] using hlong
    rw [Disk.isDir_iff, restored, say, Disk.find?_set, if_neg hne, ← Disk.isDir_iff] at hdir
    rw [look, hlong, hdir] at hlook
    cases hlook
  rw [look, if_neg hopen, hfound]

/-! ### Patches -/

/-- What a patch does with a file. -/
theorem runOn_patchImport {path : Text} (hopen : o.isFinal = false)
    (hlocate : o.locate path = .ok p) (hlook : o.look p = .ok (some (.file text))) (line : Text) :
    (patchImport path line).runOn o =
      if holdsLine line text = true then (.ok false, o)
      else (.ok true, o.restored p line (patched line text)) := by
  have hrun := (Edit.patch path line).runOn_of_locate hopen hlocate
  rw [Edit.perform, Edit.performAt] at hrun
  rw [hrun, restoreImport, ExceptT.runOn_bind, runOn_looked, hlook]
  simp only
  split
  · next hholds => rw [if_pos (by exact hholds), ExceptT.runOn_pure]
  · next hlacks =>
    rw [if_neg (by exact hlacks), ExceptT.runOn_bind, ExceptT.runOn_modify]
    rfl

/-- After a patch the same one has nothing to do. -/
theorem runOn_patchImport_again {path : Text} (hopen : o.isFinal = false)
    (hlocate : o.locate path = .ok p) (hlook : o.look p = .ok (some (.file text)))
    (hfeed : '\n' ∉ line) (hreturn : '\r' ∉ line) :
    (patchImport path line).runOn ((patchImport path line).runOn o).2 =
      (.ok false, ((patchImport path line).runOn o).2) := by
  have hfile : o.disk.find? p = some (.file text) := by
    rcases look_eq p o with ⟨hblocked, -⟩ | hfound
    · rw [hlook] at hblocked
      cases hblocked
    · rw [hlook] at hfound
      exact (Except.ok.inj hfound).symm
  have hrun := runOn_patchImport hopen hlocate hlook line
  rw [hrun]
  split
  · next hholds => rw [hrun, if_pos hholds]
  · have hlocate' := (locate_restored hfile line (patched line text) path).trans hlocate
    have hlook' := look_restored hlook line (patched line text)
    have hholds : holdsLine line (patched line text) = true :=
      holdsLine_insertImport hfeed hreturn text
    rw [runOn_patchImport (o := o.restored p line (patched line text)) hopen hlocate' hlook',
      if_pos hholds]

/-- **A patch leaves the rest of a file as it is.** If a line of the file is the import already,
apart from blanks at the ends, nothing changes. Otherwise the import becomes a new line of the text
with unified line ends. All else in the file is kept exactly if it has no carriage return. In either
case a second patch has nothing to do. -/
theorem patchImport_keeps_rest_iff {path : Text} (hopen : o.isFinal = false)
    (hlocate : o.locate path = .ok p) (hlook : o.look p = .ok (some (.file text)))
    (hline : IsOneLine line) :
    (holdsLine line text = true → (patchImport path line).runOn o = (.ok false, o)) ∧
    (holdsLine line text = false →
      (patchImport path line).runOn o = (.ok true, o.restored p line (patched line text)) ∧
      InsertsImport line (Text.unifyLineEnds text) (patched line text) ∧
      (InsertsImport line text (patched line text) ↔ '\r' ∉ text)) ∧
    (patchImport path line).runOn ((patchImport path line).runOn o).2 =
      (.ok false, ((patchImport path line).runOn o).2) := by
  have hfeed : '\n' ∉ line := fun hmem ↦ hline _ hmem (Or.inl rfl)
  have hreturn : '\r' ∉ line := fun hmem ↦ hline _ hmem (Or.inr rfl)
  have hrun := runOn_patchImport hopen hlocate hlook line
  refine ⟨fun hholds ↦ by rw [hrun, if_pos hholds], fun hlacks ↦ ⟨?_, ?_, ?_⟩,
    runOn_patchImport_again hopen hlocate hlook hfeed hreturn⟩
  · rw [hrun, if_neg (by rw [hlacks]; exact Bool.false_ne_true)]
  · exact insertsImport_patched line text
  · exact insertsImport_patched_iff hreturn

/-! ### A theme with Windows line ends -/

/-- The entry of a theme, with a carriage return at the end of each line. -/
def themeText : Text := "import A from 'a'\r\n\r\nexport default {}\r\n"

def theme : Output where
  root := ["out"]
  disk := ⟨[([], .dir), (["index.ts"], .file themeText)]⟩

/-- The import is put in, and the carriage returns are lost. -/
theorem patchImport_keeps_rest_theme :
    theme.isFinal = false ∧ theme.locate "index.ts" = .ok ["index.ts"] ∧
    theme.look ["index.ts"] = .ok (some (.file themeText)) ∧ IsOneLine "import './c.css'" ∧
    ((patchImport "index.ts" "import './c.css'").runOn theme).2.disk.text? ["index.ts"] =
      some "import A from 'a'\nimport './c.css'\n\nexport default {}\n".toList ∧
    ¬InsertsImport "import './c.css'" themeText (patched "import './c.css'" themeText) := by
  have hlocate : theme.locate "index.ts" = .ok ["index.ts"] :=
    locate_eq_ok_of_walk (Disk.hasNoLinks_of_all rfl) rfl rfl nofun
  have hline : IsOneLine "import './c.css'" := by decide
  have hlacks : holdsLine "import './c.css'" themeText = false := by decide +kernel
  obtain ⟨-, hpatched, -⟩ := patchImport_keeps_rest_iff (o := theme) rfl hlocate rfl hline
  obtain ⟨hrun, -, hkeeps⟩ := hpatched hlacks
  refine ⟨rfl, hlocate, rfl, hline, ?_, fun hinserts ↦ ?_⟩
  · rw [hrun]
    decide +kernel
  · exact hkeeps.mp hinserts (by decide)

end ApiSite.Output
