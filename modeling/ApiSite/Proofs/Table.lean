import ApiSite.Table
import ApiSite.Proofs.Text

/-!
# The layout of tables

Within a cell every bar has a backslash in front, and escaping angle brackets never comes between
the two (`isGuarded_escapeBrackets`). A space ends each cell, so no cell takes the bar behind it
along, and a row is taken apart into the cells it was made of (`pieces_row`). A line feed is not
escaped: the layout of a table holds exactly where no cell has one (`isLaidOut_iff`).
-/

set_option autoImplicit false

namespace ApiSite.Table

open Text (lines)

/-- The pieces of a line between its bars; a bar behind a backslash stays. The flag says that a
backslash stands in front. -/
def piecesAfter : (escaped : Bool) → Text → List Text
  | _, [] => [[]]
  | escaped, c :: t =>
    match piecesAfter (c == '\\') t with
    | [] => [[]]
    | piece :: rest =>
      if c = '|' && !escaped then [] :: piece :: rest else (c :: piece) :: rest

/-- The pieces of a line. -/
def pieces (line : Text) : List Text := piecesAfter false line

/-- A line that begins and ends with a bar and has cells between. -/
def IsRow (columns : ℕ) (line : Text) : Prop :=
  ∃ cells, cells.length = columns ∧ pieces line = [] :: cells ++ [[]]

/-- A table has two lines more than rows, and each line has a cell for each column, apart from the
second one, which separates the header from the rows. -/
structure IsLaidOut (header : List Text) (rows : List (List Text)) : Prop where
  length_lines : (lines (render header rows)).length = 2 + rows.length
  isRow : ∀ line ∈ (lines (render header rows)).eraseIdx 1, IsRow header.length line

/-- A bar has a backslash in front. -/
def IsGuarded (t : Text) : Prop := t.IsChain fun a b ↦ b = '|' → a = '\\'

variable {a c : Char} {s t cell : Text} {cells header : List Text} {rows : List (List Text)} {k : ℕ}

/-! ### Pieces -/

theorem piecesAfter_ne_nil (escaped : Bool) (t : Text) : piecesAfter escaped t ≠ [] := by
  cases t with
  | nil => exact List.cons_ne_nil _ _
  | cons c t =>
    rw [piecesAfter]
    split
    · exact List.cons_ne_nil _ _
    · split <;> exact List.cons_ne_nil _ _

theorem piecesAfter_bar (t : Text) : piecesAfter false ('|' :: t) = [] :: pieces t := by
  obtain ⟨piece, rest, h⟩ := List.exists_cons_of_ne_nil (piecesAfter_ne_nil false t)
  rw [piecesAfter, show ('|' == '\\') = false from rfl, pieces, h]
  rfl

/-- A text whose bars all have a backslash in front is not taken apart. -/
theorem piecesAfter_append (hs : IsGuarded (a :: s)) {piece : Text} {rest : List Text}
    (ht : piecesAfter (((a :: s).getLast (List.cons_ne_nil a s)) == '\\') t = piece :: rest) :
    piecesAfter (a == '\\') (s ++ t) = (s ++ piece) :: rest := by
  induction s generalizing a with
  | nil => exact ht
  | cons c s ih =>
    obtain ⟨hc, hs⟩ := List.isChain_cons_cons.mp hs
    rw [List.getLast_cons_cons] at ht
    rw [List.cons_append, piecesAfter, ih hs ht]
    have hbar : ¬(c = '|' && !(a == '\\')) = true := by
      simpa using hc
    simp only [if_neg hbar, List.cons_append]

/-! ### Cells -/

theorem isGuarded_replace (a : Char) (cell : Text) :
    IsGuarded (a :: Text.replace "|" "\\|" cell) := by
  rw [show ("|" : Text) = ['|'] from rfl, Text.replace_singleton]
  induction cell generalizing a with
  | nil => exact List.IsChain.singleton a
  | cons c cell ih =>
    rw [List.flatMap_cons]
    split
    · exact List.isChain_cons_cons.mpr ⟨fun h ↦ absurd h (by decide),
        List.isChain_cons_cons.mpr ⟨fun _ ↦ rfl, ih '|'⟩⟩
    · next hc => exact List.isChain_cons_cons.mpr ⟨fun h ↦ absurd h hc, ih c⟩

/-- Angle brackets are escaped without a bar losing its backslash. -/
theorem isGuarded_escapeBrackets (ht : IsGuarded (a :: t)) :
    IsGuarded (a :: escapeBrackets k t) := by
  fun_induction escapeBrackets k t generalizing a with
  | case1 => exact ht
  | case2 k c t ih =>
    obtain ⟨hc, ht⟩ := List.isChain_cons_cons.mp ht
    exact List.isChain_cons_cons.mpr ⟨hc, ih ht⟩
  | case3 c t size hcopied ih =>
    obtain ⟨hc, ht⟩ := List.isChain_cons_cons.mp ht
    exact List.isChain_cons_cons.mpr ⟨hc, ih ht⟩
  | case4 t hcopied ih =>
    have ht := (List.isChain_cons_cons.mp ht).2
    exact List.isChain_cons_cons.mpr ⟨fun h ↦ absurd h (by decide),
      List.isChain_cons_cons.mpr ⟨fun h ↦ absurd h (by decide), ih ht⟩⟩
  | case5 t hcopied hopen ih =>
    have ht := (List.isChain_cons_cons.mp ht).2
    exact List.isChain_cons_cons.mpr ⟨fun h ↦ absurd h (by decide),
      List.isChain_cons_cons.mpr ⟨fun h ↦ absurd h (by decide), ih ht⟩⟩
  | case6 c t hcopied hopen hclose ih =>
    obtain ⟨hc, ht⟩ := List.isChain_cons_cons.mp ht
    exact List.isChain_cons_cons.mpr ⟨hc, ih ht⟩

/-- Escaping angle brackets brings backslashes into a text, and nothing else. -/
theorem mem_escapeBrackets_iff {x : Char} (hx : x ≠ '\\') :
    x ∈ escapeBrackets k t ↔ x ∈ t := by
  fun_induction escapeBrackets k t <;> simp_all

/-- No line feed is added to a cell, and none is taken away. -/
theorem break_mem_escapeCell_iff : '\n' ∈ escapeCell cell ↔ '\n' ∈ cell := by
  rw [escapeCell, mem_escapeBrackets_iff (by decide), show ("|" : Text) = ['|'] from rfl,
    Text.replace_singleton, List.mem_flatMap]
  constructor
  · rintro ⟨c, hc, hmem⟩
    split at hmem
    · exact absurd hmem (by decide)
    · exact List.mem_singleton.mp hmem ▸ hc
  · intro hmem
    exact ⟨'\n', hmem, by decide⟩

/-! ### Rows -/

/-- A cell as it stands between the bars of its row. -/
def written (cell : Text) : Text := ' ' :: (escapeCell cell ++ [' '])

theorem row_eq (hcells : cells ≠ []) :
    row cells = '|' :: cells.flatMap fun cell ↦ written cell ++ ['|'] := by
  have hrest (cells : List Text) : (cells.map escapeCell).flatMap (" | ".toList ++ ·) ++ " |" =
      " |" ++ cells.flatMap fun cell ↦ written cell ++ ['|'] := by
    induction cells with
    | nil => rfl
    | cons cell cells ih =>
      rw [List.map_cons, List.flatMap_cons, List.append_assoc, ih]
      simp [written]
  obtain ⟨cell, cells, rfl⟩ := List.exists_cons_of_ne_nil hcells
  rw [row, List.map_cons, Text.join_cons, List.append_assoc, List.append_assoc, hrest]
  simp [written]

theorem isGuarded_written (cell : Text) : IsGuarded ('|' :: written cell) := by
  have hcell : IsGuarded (' ' :: escapeCell cell) :=
    isGuarded_escapeBrackets (isGuarded_replace ' ' cell)
  refine List.isChain_cons_cons.mpr ⟨fun h ↦ absurd h (by decide), ?_⟩
  refine List.isChain_append.mpr ⟨hcell, List.IsChain.singleton ' ', ?_⟩
  rintro c - d hd rfl
  cases hd

/-- The bar behind a cell is the first that ends it: a space stands before it. -/
theorem pieces_written_append (cell t : Text) :
    pieces (written cell ++ '|' :: t) = written cell :: pieces t := by
  have hlast : ('|' :: written cell).getLast (List.cons_ne_nil _ _) = ' ' := by simp [written]
  have hbar : piecesAfter ((('|' :: written cell).getLast (List.cons_ne_nil _ _)) == '\\')
      ('|' :: t) = [] :: pieces t := by
    rw [hlast]
    exact piecesAfter_bar t
  have h := piecesAfter_append (isGuarded_written cell) hbar
  rwa [List.append_nil] at h

/-- A row is taken apart into its cells. -/
theorem pieces_row (hcells : cells ≠ []) :
    pieces (row cells) = [] :: cells.map written ++ [[]] := by
  have hbody (cells : List Text) :
      pieces (cells.flatMap fun cell ↦ written cell ++ ['|']) = cells.map written ++ [[]] := by
    induction cells with
    | nil => rfl
    | cons cell cells ih =>
      rw [List.flatMap_cons, List.append_assoc, List.singleton_append, pieces_written_append, ih]
      rfl
  rw [row_eq hcells, pieces, piecesAfter_bar, hbody]
  rfl

theorem isRow_row (hcells : cells ≠ []) : IsRow cells.length (row cells) :=
  ⟨cells.map written, List.length_map written, pieces_row hcells⟩

theorem break_mem_row_iff (hcells : cells ≠ []) :
    '\n' ∈ row cells ↔ ∃ cell ∈ cells, '\n' ∈ cell := by
  have hwritten (cell : Text) : '\n' ∈ written cell ++ ['|'] ↔ '\n' ∈ cell := by
    simp [written, break_mem_escapeCell_iff]
  rw [row_eq hcells, List.mem_cons, List.mem_flatMap]
  simp only [hwritten, Char.reduceEq, false_or]

theorem break_notMem_separator (columns : ℕ) : '\n' ∉ separator columns := by
  intro hmem
  rcases List.mem_append.mp hmem with hmem | hmem
  · rcases List.mem_append.mp hmem with hmem | hmem
    · exact absurd hmem (by decide)
    · rcases Text.mem_of_mem_join hmem with hmem | ⟨piece, hpiece, hmem⟩
      · exact absurd hmem (by decide)
      · rw [(List.mem_replicate.mp hpiece).2] at hmem
        exact absurd hmem (by decide)
  · exact absurd hmem (by decide)

/-! ### Tables -/

/-- The lines of a table, if there is no line feed in its cells. -/
def tableLines (header : List Text) (rows : List (List Text)) : List Text :=
  row header :: separator header.length :: rows.map row

theorem render_eq (hrows : rows ≠ []) :
    render header rows = Text.unlines (tableLines header rows) :=
  if_neg (by simpa using hrows)

theorem break_notMem_tableLines_iff (hcells : ∀ cells ∈ header :: rows, cells ≠ []) :
    (∀ line ∈ tableLines header rows, '\n' ∉ line) ↔
      ∀ cells ∈ header :: rows, ∀ cell ∈ cells, '\n' ∉ cell := by
  have hrow (cells : List Text) (hmem : cells ∈ header :: rows) :
      '\n' ∉ row cells ↔ ∀ cell ∈ cells, '\n' ∉ cell := by
    rw [break_mem_row_iff (hcells cells hmem)]
    simp
  constructor
  · intro h cells hmem
    refine (hrow cells hmem).mp (h (row cells) ?_)
    rcases List.mem_cons.mp hmem with rfl | hrows
    · exact List.mem_cons_self
    · exact List.mem_cons_of_mem _ (List.mem_cons_of_mem _ (List.mem_map_of_mem hrows))
  · intro h line hline
    rcases List.mem_cons.mp hline with rfl | hline
    · exact (hrow header List.mem_cons_self).mpr (h header List.mem_cons_self)
    · rcases List.mem_cons.mp hline with rfl | hline
      · exact break_notMem_separator _
      · obtain ⟨cells, hmem, rfl⟩ := List.mem_map.mp hline
        have hmem := List.mem_cons_of_mem header hmem
        exact (hrow cells hmem).mpr (h cells hmem)

/-- **The layout of a table.** Whatever else its cells hold, bars and backslashes included, a table
is laid out as it should be exactly where no line feed is in a cell. -/
theorem isLaidOut_iff (hheader : header ≠ []) (hrows : rows ≠ [])
    (hlengths : ∀ cells ∈ rows, cells.length = header.length) :
    IsLaidOut header rows ↔ ∀ cells ∈ header :: rows, ∀ cell ∈ cells, '\n' ∉ cell := by
  have hcolumns : ∀ cells ∈ header :: rows, cells.length = header.length :=
    List.forall_mem_cons.mpr ⟨rfl, hlengths⟩
  have hcells : ∀ cells ∈ header :: rows, cells ≠ [] := fun cells hmem ↦
    List.ne_nil_of_length_pos (hcolumns cells hmem ▸ List.length_pos_iff.mpr hheader)
  have hne : tableLines header rows ≠ [] := List.cons_ne_nil _ _
  have hlength : (tableLines header rows).length = 2 + rows.length := by
    simp only [tableLines, List.length_cons, List.length_map]
    omega
  rw [← break_notMem_tableLines_iff hcells]
  constructor
  · intro h line hline
    have hlines := h.length_lines
    rw [render_eq hrows, lines, Text.splitOn_join_eq_flatMap hne, ← hlength] at hlines
    exact Text.forall_notMem_of_length_flatMap_splitOn hlines line hline
  · intro h
    have hlines : lines (render header rows) = tableLines header rows := by
      rw [render_eq hrows]
      exact Text.splitOn_join hne h
    refine ⟨by rw [hlines, hlength], fun line hline ↦ ?_⟩
    rw [hlines] at hline
    obtain ⟨cells, hmem, rfl⟩ : ∃ cells ∈ header :: rows, row cells = line :=
      List.mem_map.mp (show line ∈ (header :: rows).map row from hline)
    rw [← hcolumns cells hmem]
    exact isRow_row (hcells cells hmem)

theorem isLaidOut_fruit :
    IsLaidOut (Text.ofStrings ["Name", "Use"]) [Text.ofStrings ["a|b", "ends in \\"]] :=
  (isLaidOut_iff (by decide) (by decide) (by decide)).mpr (by decide)

/-- A line feed in a cell ends its row. -/
example : render (Text.ofStrings ["Name"]) [Text.ofStrings ["a\nb"]] =
    "| Name |\n|---|\n| a\nb |" := by decide

end ApiSite.Table
