import ApiSite.Proofs.Doc.Prose

/-!
# Tables of words

A table is written one row to a line, its cells between bars, with a row of dashes and colons behind
the header. Cells hold neither backslashes nor backticks, so every bar of a row divides two cells or
is a border (`split_barred`), and the layout that the lines ask for is the one they were written in
(`layout?_lines`). A source of such lines is then one table, each word in its row and column and
each column with its placement (`parse_source`).
-/

set_option autoImplicit false

namespace ApiSite.Markup

open Doc (Word Many)
open Text (lines unlines startsWith)
open TableRow (Layout)

/-! ### Rows -/

/-- Cells between bars. -/
def barred (cells : List Text) : Text := '|' :: cells.flatMap (· ++ ['|'])

/-- The cell of a word. -/
def wordCell (w : Word) : Text := ' ' :: w.letters ++ [' ']

/-- The line of a row of words. -/
def rowLine (ws : List Word) : Text := barred (ws.map wordCell)

/-- The cell that asks for the placement of its column. -/
def separatorCell : Option TableRow.Alignment → Text
  | none => "---"
  | some .left => ":---"
  | some .center => ":---:"
  | some .right => "---:"

/-- The line between the header and the body. -/
def separatorLine (columns : List (Option TableRow.Alignment)) : Text :=
  barred (columns.map separatorCell)

/-- A table: the placement of each column, the words of the header, and the rows of the body. All
rows are as long as there are columns. -/
structure WordTable where
  columns : List (Option TableRow.Alignment)
  header : List Word
  body : Many (List Word)
  columns_ne_nil : columns ≠ []
  length_header : header.length = columns.length
  length_body : ∀ row ∈ body.toList, row.length = columns.length

namespace WordTable

/-- The rows of words, the header first. -/
def rows (t : WordTable) : List (List Word) := t.header :: t.body.toList

def lines (t : WordTable) : List Text :=
  rowLine t.header :: separatorLine t.columns :: t.body.toList.map rowLine

/-- A table as it stands in a documentation text. -/
def source (t : WordTable) : Text := unlines t.lines

end WordTable

variable {cells : List Text} {cell line s : Text} {c x : Char} {ws : List Word}
  {columns : List (Option TableRow.Alignment)} {t : WordTable}

/-- The characters of cells. -/
def isCellChar (c : Char) : Bool := c.isAlpha || c == ' ' || c == '-' || c == ':'

theorem barred_cons : barred (cell :: cells) = '|' :: (cell ++ barred cells) := by
  simp [barred]

theorem barred_eq (hcells : cells ≠ []) :
    barred cells = '|' :: (Text.join ['|'] cells ++ ['|']) := by
  rw [Text.join_append_sep hcells, barred]

theorem isCellChar_of_mem_wordCell {w : Word} (hx : x ∈ wordCell w) : isCellChar x = true := by
  simp only [wordCell, List.cons_append, List.mem_cons, List.mem_append, List.not_mem_nil,
    or_false] at hx
  rcases hx with rfl | hx | rfl
  · rfl
  · simp [isCellChar, w.isAlpha x hx]
  · rfl

theorem isCellChar_of_mem_separatorCell {column : Option TableRow.Alignment}
    (hx : x ∈ separatorCell column) : isCellChar x = true := by
  have hall : (separatorCell column).all isCellChar = true := by
    cases column with
    | none => rfl
    | some a => cases a <;> rfl
  exact List.all_eq_true.mp hall x hx

theorem isCellChar_of_mem_row (hcell : cell ∈ ws.map wordCell) (hx : x ∈ cell) :
    isCellChar x = true := by
  obtain ⟨w, -, rfl⟩ := List.mem_map.mp hcell
  exact isCellChar_of_mem_wordCell hx

theorem isCellChar_of_mem_separator (hcell : cell ∈ columns.map separatorCell) (hx : x ∈ cell) :
    isCellChar x = true := by
  obtain ⟨column, -, rfl⟩ := List.mem_map.mp hcell
  exact isCellChar_of_mem_separatorCell hx

theorem mem_barred (hx : x ∈ barred cells) : x = '|' ∨ ∃ cell ∈ cells, x ∈ cell := by
  rcases List.mem_cons.mp hx with hx | hx
  · exact Or.inl hx
  · obtain ⟨cell, hcell, hx⟩ := List.mem_flatMap.mp hx
    rcases List.mem_append.mp hx with hx | hx
    · exact Or.inr ⟨cell, hcell, hx⟩
    · exact Or.inl (List.mem_singleton.mp hx)

/-- Whatever stands at a bar's side, the ends of a row are bars. -/
theorem trim_barred {p : Char → Bool} (hcells : cells ≠ []) (hp : p '|' = false) :
    Text.trim p (barred cells) = barred cells := by
  rw [barred_eq hcells, Text.trim, Text.trimStart_eq_self hp, ← List.cons_append,
    Text.trimEnd_concat_of_false hp]

/-! ### The cells of a row -/

namespace TableRow

variable {pos : Nat} {pipes : List Nat}

/-- Cutting behind a character leaves it in the first piece. -/
theorem cutAt_cons (hpipes : ∀ p ∈ pipes, pos + 1 ≤ p) {piece : Text} {pieces : List Text}
    (hcut : cutAt (pos + 1) s pipes = piece :: pieces) :
    cutAt pos (c :: s) pipes = (c :: piece) :: pieces := by
  cases pipes with
  | nil =>
    obtain ⟨rfl, rfl⟩ := List.cons.inj hcut
    rfl
  | cons p rest =>
    obtain ⟨n, rfl⟩ := Nat.exists_eq_add_of_le (hpipes p List.mem_cons_self)
    obtain ⟨rfl, rfl⟩ := List.cons.inj hcut
    have hhere : pos + 1 + n - pos = n + 1 := by omega
    have hlater : pos + 1 + n - (pos + 1) = n := by omega
    rw [cutAt, hhere, hlater]
    rfl

/-- Without backslashes and backticks, a row is cut at each of its bars. -/
theorem scanFrom_eq (hslash : '\\' ∉ s) (htick : '\x60' ∉ s) :
    (scanFrom pos 0 s).ticks = [] ∧ (∀ p ∈ (scanFrom pos 0 s).pipes, pos ≤ p) ∧
      cutAt pos s (scanFrom pos 0 s).pipes = Text.splitOn '|' s := by
  induction s generalizing pos with
  | nil => exact ⟨rfl, fun p hp ↦ absurd hp List.not_mem_nil, rfl⟩
  | cons c s ih =>
    obtain ⟨hticks, hpipes, hcut⟩ := @ih (pos + 1) (mt (List.mem_cons_of_mem _) hslash)
      (mt (List.mem_cons_of_mem _) htick)
    have hc : c ≠ '\\' ∧ c ≠ '\x60' :=
      ⟨(List.ne_of_not_mem_cons hslash).symm, (List.ne_of_not_mem_cons htick).symm⟩
    obtain ⟨piece, pieces, hsplit⟩ := List.exists_cons_of_ne_nil (Text.splitOn_ne_nil '|' s)
    rw [scanFrom_cons hc.1 hc.2]
    by_cases hbar : c = '|'
    · simp only [if_pos hbar]
      refine ⟨hticks, fun p hp ↦ ?_, ?_⟩
      · rcases List.mem_cons.mp hp with rfl | hp
        · exact Nat.le_refl p
        · exact Nat.le_of_succ_le (hpipes p hp)
      · rw [cutAt, Nat.sub_self, List.take_zero, List.drop_succ_cons, List.drop_zero, hcut,
          Text.splitOn, hsplit]
        simp only [if_pos hbar]
    · simp only [if_neg hbar]
      refine ⟨hticks, fun p hp ↦ Nat.le_of_succ_le (hpipes p hp), ?_⟩
      rw [cutAt_cons hpipes (hcut.trans hsplit), Text.splitOn, hsplit]
      simp only [if_neg hbar]

theorem cells_eq_splitOn (hslash : '\\' ∉ s) (htick : '\x60' ∉ s) :
    TableRow.cells s = Text.splitOn '|' s := by
  obtain ⟨hticks, -, hcut⟩ := @scanFrom_eq s 0 hslash htick
  have hspans : spansFrom 0 (scanFrom 0 0 s).ticks = [] := by
    rw [hticks]
    rfl
  have hall : (scanFrom 0 0 s).pipes.filter (fun p ↦ !inSpan p []) = (scanFrom 0 0 s).pipes :=
    List.filter_eq_self.mpr fun _ _ ↦ rfl
  rw [TableRow.cells]
  simp only [hspans, hall, hcut]

/-- A bar at the end is a border, where no backslash stands before it. -/
theorem dropRightBorder_concat (hslash : '\\' ∉ s) : dropRightBorder (s ++ ['|']) = s := by
  have hreverse : (s ++ ['|']).reverse = '|' :: s.reverse := by simp
  have hstop : s.reverse.dropWhile (· == '\\') = s.reverse := by
    cases hs : s.reverse with
    | nil => rfl
    | cons c rest =>
      have hc : c ≠ '\\' := by
        rintro rfl
        exact hslash (List.mem_reverse.mp (hs ▸ List.mem_cons_self))
      simp [hc]
  have hcount : Text.countStart (· == '\\') s.reverse = 0 := by
    have hsame := List.takeWhile_append_dropWhile (p := (· == '\\')) (l := s.reverse)
    rw [hstop, List.append_left_eq_self] at hsame
    rw [Text.countStart, hsame, List.length_nil]
  have hborder : hasRightBorder (s ++ ['|']) = true := by
    rw [hasRightBorder, hreverse]
    simp [hcount]
  rw [dropRightBorder, hborder, if_pos rfl, hreverse, List.drop_succ_cons, List.drop_zero, hstop,
    List.reverse_reverse]

/-- **A row between bars is divided into the cells that it was written with.** -/
theorem split_barred (hne : cells ≠ [])
    (hcells : ∀ {cell x}, cell ∈ cells → x ∈ cell → isCellChar x = true) :
    split true (barred cells) = cells := by
  have hno {x : Char} (hx : isCellChar x = false) (hbar : x ≠ '|') : x ∉ Text.join ['|'] cells := by
    intro hmem
    rcases Text.mem_of_mem_join hmem with hmem | ⟨cell, hcell, hmem⟩
    · exact hbar (List.mem_singleton.mp hmem)
    · rw [hcells hcell hmem] at hx
      cases hx
  have hbar (cell : Text) (hcell : cell ∈ cells) : '|' ∉ cell :=
    Text.not_mem_of_all (fun _ ↦ hcells hcell) rfl
  have hleft : hasLeftBorder (barred cells) = true := rfl
  rw [split, if_pos rfl, hleft, if_pos rfl, barred_eq hne, List.drop_succ_cons, List.drop_zero,
    dropRightBorder_concat (hno rfl (by decide)),
    cells_eq_splitOn (hno rfl (by decide)) (hno rfl (by decide)), Text.splitOn_join hne hbar]

theorem ofSeparator_separatorCell (column : Option TableRow.Alignment) :
    TableRow.Alignment.ofSeparator (separatorCell column) = column := by
  cases column with
  | none => decide
  | some a => cases a <;> decide

end TableRow

namespace WordTable

variable {row : List Word}

theorem length_of_mem_rows (hrow : row ∈ t.rows) : row.length = t.columns.length := by
  rcases List.mem_cons.mp hrow with rfl | hrow
  · exact t.length_header
  · exact t.length_body row hrow

theorem row_ne_nil (hrow : row ∈ t.rows) : row ≠ [] := by
  rintro rfl
  exact t.columns_ne_nil (List.length_eq_zero_iff.mp (length_of_mem_rows hrow).symm)

theorem split_rowLine (hne : ws ≠ []) : TableRow.split true (rowLine ws) = ws.map wordCell :=
  TableRow.split_barred (mt List.map_eq_nil_iff.mp hne) isCellChar_of_mem_row

theorem split_separatorLine (hne : columns ≠ []) :
    TableRow.split true (separatorLine columns) = columns.map separatorCell :=
  TableRow.split_barred (mt List.map_eq_nil_iff.mp hne) isCellChar_of_mem_separator

/-- Every line of a table is cells between bars. -/
theorem exists_of_mem_lines (hline : line ∈ t.lines) :
    ∃ cells : List Text, line = barred cells ∧ cells ≠ [] ∧
      ∀ {cell x}, cell ∈ cells → x ∈ cell → isCellChar x = true := by
  have hrow {row : List Word} (hrow : row ∈ t.rows) : ∃ cells : List Text,
      rowLine row = barred cells ∧ cells ≠ [] ∧
        ∀ {cell x}, cell ∈ cells → x ∈ cell → isCellChar x = true :=
    ⟨row.map wordCell, rfl, mt List.map_eq_nil_iff.mp (row_ne_nil hrow), isCellChar_of_mem_row⟩
  rcases List.mem_cons.mp hline with rfl | hline
  · exact hrow List.mem_cons_self
  rcases List.mem_cons.mp hline with rfl | hline
  · exact ⟨_, rfl, mt List.map_eq_nil_iff.mp t.columns_ne_nil, isCellChar_of_mem_separator⟩
  · obtain ⟨row, hmem, rfl⟩ := List.mem_map.mp hline
    exact hrow (List.mem_cons_of_mem _ hmem)

theorem trim_of_mem_lines {p : Char → Bool} (hp : p '|' = false) (hline : line ∈ t.lines) :
    Text.trim p line = line := by
  obtain ⟨cells, rfl, hne, -⟩ := exists_of_mem_lines hline
  exact trim_barred hne hp

/-- The characters of tables. -/
def isTableChar (c : Char) : Bool := isCellChar c || c == '|' || c == '\n'

theorem isTableChar_of_mem_lines (hline : line ∈ t.lines) (hx : x ∈ line) :
    (isCellChar x || x == '|') = true := by
  obtain ⟨cells, rfl, -, hcells⟩ := exists_of_mem_lines hline
  rcases mem_barred hx with rfl | ⟨cell, hcell, hx⟩
  · rfl
  · simp [hcells hcell hx]

theorem newline_not_mem_of_mem_lines (hline : line ∈ t.lines) : '\n' ∉ line :=
  Text.not_mem_of_all (fun _ ↦ isTableChar_of_mem_lines hline) rfl

theorem lines_source (t : WordTable) : Text.lines t.source = t.lines :=
  Text.splitOn_join (List.cons_ne_nil _ _) fun _ ↦ newline_not_mem_of_mem_lines

theorem not_mem_source (hx : isTableChar x = false) : x ∉ t.source := by
  intro hmem
  rcases Text.mem_of_mem_join hmem with hmem | ⟨line, hline, hmem⟩
  · rw [List.mem_singleton.mp hmem] at hx
    cases hx
  · rw [isTableChar, isTableChar_of_mem_lines hline hmem] at hx
    cases hx

theorem exists_source_eq (t : WordTable) : ∃ s, t.source = '|' :: s := ⟨_, rfl⟩

theorem exists_source_last (t : WordTable) : ∃ s, t.source = s ++ ['|'] := by
  obtain hnil | ⟨before, line, hlines⟩ := List.eq_nil_or_concat t.lines
  · exact absurd hnil (List.cons_ne_nil _ _)
  rw [List.concat_eq_append] at hlines
  obtain ⟨cells, rfl, hne, -⟩ := exists_of_mem_lines (hlines ▸ List.mem_append_right _
    List.mem_cons_self : line ∈ t.lines)
  obtain ⟨s, hs⟩ := Text.exists_join_concat (t := barred cells) ['\n'] before
  refine ⟨s ++ '|' :: Text.join ['|'] cells, ?_⟩
  rw [source, hlines, unlines, hs, barred_eq hne]
  simp

/-! ### Reading -/

/-- The layout that a table is written in. -/
def layout (t : WordTable) : Layout := ⟨true, t.columns⟩

theorem layout?_lines (t : WordTable) : TableRow.layout? t.lines = some t.layout := by
  have htrim : t.lines.map (Text.trim (· == ' ')) = t.lines :=
    (List.map_congr_left fun line hline ↦ trim_of_mem_lines rfl hline).trans (List.map_id _)
  have hleft {line : Text} (hline : line ∈ t.lines) : TableRow.hasLeftBorder line = true := by
    obtain ⟨cells, rfl, -⟩ := exists_of_mem_lines hline
    rfl
  have hbody : ((separatorLine t.columns :: t.body.toList.map rowLine).all fun row ↦
      TableRow.hasLeftBorder row || TableRow.hasRightBorder row) = true := by
    refine List.all_eq_true.mpr fun line hline ↦ ?_
    rw [hleft (List.mem_cons_of_mem _ hline), Bool.true_or]
  have hchars : ((t.columns.map separatorCell).all
      (·.all fun c ↦ c == '|' || c == ':' || c == '-' || c == ' ')) = true := by
    refine List.all_eq_true.mpr fun cell hcell ↦ ?_
    obtain ⟨column, -, rfl⟩ := List.mem_map.mp hcell
    cases column with
    | none => rfl
    | some a => cases a <;> rfl
  have hplaced : (t.columns.map separatorCell).map TableRow.Alignment.ofSeparator = t.columns := by
    rw [List.map_map]
    exact (List.map_congr_left fun column _ ↦
      TableRow.ofSeparator_separatorCell column).trans (List.map_id _)
  have hlines : t.lines =
      rowLine t.header :: separatorLine t.columns :: t.body.toList.map rowLine := rfl
  rw [TableRow.layout?, htrim, hlines]
  simp only [hleft (hlines ▸ List.mem_cons_self), Bool.true_or,
    split_rowLine (row_ne_nil List.mem_cons_self), split_separatorLine t.columns_ne_nil, hbody,
    hchars, hplaced, List.length_map, t.length_header, Bool.or_true, Bool.and_true,
    beq_self_eq_true, if_true]
  rfl

/-- The style that places the text of a column. -/
def styleOf (column : Option TableRow.Alignment) : Option Text :=
  column.map fun a ↦ "text-align: " ++ a.word ++ ";"

/-- The attributes of the cells of a column. -/
def cellAttrs (column : Option TableRow.Alignment) : Attrs :=
  (styleOf column).toList.map fun style ↦ ("style", some style)

/-- A word as a cell of a column. -/
def cellElement (tag : Text) (column : Option TableRow.Alignment) (w : Word) : Element :=
  .mk tag (cellAttrs column) (some w.letters) [] none

/-- A row of words, one in each column. -/
def rowElement (tag : Text) (columns : List (Option TableRow.Alignment)) (ws : List Word) :
    Element :=
  .mk "tr" [] none (List.zipWith (cellElement tag) columns ws) none

/-- A table with each word in its row and column, and each column with its placement. -/
def element (t : WordTable) : Element :=
  .mk "table" [] none
    [.mk "thead" [] none [rowElement "th" t.columns t.header] none,
      .mk "tbody" [] none (t.body.toList.map (rowElement "td" t.columns)) none] none

theorem trim_wordCell (w : Word) : Text.trim Block.isSpace (wordCell w) = w.letters := by
  obtain ⟨c, rest, hletters, hc⟩ := w.exists_head
  obtain ⟨letters, d, hlast, hd⟩ := w.exists_last
  have hspace {c : Char} (hc : c.isAlpha = true) : Block.isSpace c = false :=
    beq_eq_false_iff_ne.mpr (ne_of_isAlpha hc rfl)
  have hstart : Text.trimStart Block.isSpace (wordCell w) = w.letters ++ [' '] := by
    have hskip : Text.trimStart Block.isSpace (' ' :: (w.letters ++ [' '])) =
        Text.trimStart Block.isSpace (w.letters ++ [' ']) := rfl
    rw [wordCell, List.cons_append, hskip, hletters, List.cons_append,
      Text.trimStart_eq_self (hspace hc)]
  rw [Text.trim, hstart, Text.trimEnd_concat_of_true rfl, hlast,
    Text.trimEnd_concat_of_false (hspace hd)]

/-- A line of words is read as their row. -/
theorem tableRow_rowLine {tag : Text} (hlength : ws.length = columns.length) (hne : ws ≠ []) :
    Block.tableRow tag ⟨true, columns⟩ (rowLine ws) = rowElement tag columns ws := by
  have htrim : Text.trim Block.isSpace (rowLine ws) = rowLine ws :=
    trim_barred (mt List.map_eq_nil_iff.mp hne) rfl
  rw [Block.tableRow, rowElement]
  simp only [htrim, split_rowLine hne]
  congr 1
  refine List.ext_getElem (by simp [hlength]) fun i hi hi' ↦ ?_
  have hcolumns : i < columns.length := by simpa using hi
  simp only [List.getElem_mapIdx, List.getElem_zipWith, List.getElem?_map,
    List.getElem?_eq_getElem (hlength ▸ hcolumns : i < ws.length), Option.map_some,
    Option.getD_some, trim_wordCell]
  rw [cellElement]
  cases columns[i] <;> rfl

theorem tableElement_lines (t : WordTable) : Block.tableElement t.layout t.lines = t.element := by
  have hheader : Block.tableRow "th" ⟨true, t.columns⟩ (rowLine t.header) =
      rowElement "th" t.columns t.header :=
    tableRow_rowLine t.length_header (row_ne_nil List.mem_cons_self)
  have hbody : (t.body.toList.map rowLine).map (Block.tableRow "td" t.layout) =
      t.body.toList.map (rowElement "td" t.columns) := by
    rw [List.map_map]
    exact List.map_congr_left fun row hrow ↦
      tableRow_rowLine (t.length_body row hrow) (row_ne_nil (List.mem_cons_of_mem _ hrow))
  have hdrop : t.lines.drop 2 = rowLine t.body.first :: t.body.rest.map rowLine := rfl
  have hhead : t.lines.headD [] = rowLine t.header := rfl
  rw [Block.tableElement, hdrop, hhead, element, ← hbody]
  simp only [layout, hheader]
  rfl

theorem formOf_source (t : WordTable) {place : Block.Place} {parent : Element} :
    Block.formOf [] place parent t.source = .table t.layout := by
  have hlayout : TableRow.layout? (Text.lines t.source) = some t.layout := by
    rw [lines_source, layout?_lines]
  obtain ⟨s, hs⟩ := exists_source_eq t
  rw [hs] at hlayout ⊢
  have hline : startsWith ['\n'] ('|' :: s) = false := rfl
  have hnest : startsWith (Text.spaces Block.nestWidth) ('|' :: s) = false := rfl
  have hcode : startsWith (Text.spaces Block.codeWidth) ('|' :: s) = false := rfl
  simp [Block.formOf, Block.isNested, hline, hnest, hcode, hlayout]

/-- **A source of the lines of a table is that table.** -/
theorem parse_source (t : WordTable) :
    Block.parse [] (t.source ++ ['\n', '\n']) = (.mk "div" [] none [t.element] none, []) := by
  have hsplit : Text.splitOnText "\n\n" (t.source ++ ['\n', '\n']) = [t.source, []] := by
    refine Text.splitOnText_append (Text.isChain_join fun line hline ↦ ?_) ?_
    · refine ⟨?_, newline_not_mem_of_mem_lines hline⟩
      obtain ⟨cells, rfl, -⟩ := exists_of_mem_lines hline
      exact List.cons_ne_nil _ _
    · obtain ⟨s, hs⟩ := exists_source_last t
      rw [hs, List.getLast?_concat]
      rintro ⟨⟩
  obtain ⟨fuel, hfuel⟩ : ∃ n, 3 * (t.source ++ ['\n', '\n']).length + 16 = n + 2 := ⟨_, rfl⟩
  have hlast : ∀ e ∈ ((Element.bare "div").append t.element).last?,
      Block.isCodeBlock e = false := by
    simp [Element.append, Element.last?, Element.setChildren, Element.children, Element.bare,
      element, Block.isCodeBlock, Element.tag]
  rw [Block.parse, hsplit, hfuel, Block.read, formOf_source]
  simp only [lines_source, tableElement_lines, Block.read_emptyBlock hlast]
  rfl

end WordTable

end ApiSite.Markup
