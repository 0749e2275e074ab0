import ApiSite.Proofs.Markup.Tables
import ApiSite.Proofs.Markup.Inline.Calm
import ApiSite.Proofs.Markup.Writer

/-!
# Tables are written as they were read

The tree of a table of words holds nothing for the stages behind the reading of blocks, so it is the
document (`parse_table`). The writer collects the words of a row while it walks over its cells
(`writeAll_cells`), the rows while it walks over the table (`writeAll_rows`), and the placements in
the header only; all three stay in step, so what it writes at the end of the table are the lines
that the table was read from (`text_writeTable`).
-/

set_option autoImplicit false

namespace ApiSite.Markup

open Doc (Word)

namespace WordTable

variable {t : WordTable} {ws : List Word} {columns : List (Option TableRow.Alignment)} {x : Char}
  {resolve? : Option (Text → Option Element)} {tag : Text} {e : Element}

/-! ### The tree -/

/-- The root of the tree that a table is read as. -/
def root (t : WordTable) : Element := .mk "div" [] none [t.element] none

theorem exists_of_mem_cells (he : e ∈ List.zipWith (cellElement tag) columns ws) :
    ∃ column w, e = cellElement tag column w := by
  induction columns generalizing ws with
  | nil => cases he
  | cons column columns ih =>
    cases ws with
    | nil => cases he
    | cons w ws =>
      rcases List.mem_cons.mp he with rfl | he
      · exact ⟨column, w, rfl⟩
      · exact ih he

theorem isCalm_row {setting : Inline.Setting} (hdefinitions : setting.definitions = [])
    (htag : (tag == "code") = false) :
    Inline.IsCalm setting (Inline.ofBlock (rowElement tag columns ws)) := by
  rw [rowElement, Inline.ofBlock]
  refine .intro (fun hopen ↦ absurd hopen Bool.false_ne_true) fun d hd ↦ ?_
  obtain ⟨e, he, rfl⟩ := Inline.mem_ofBlocks hd
  obtain ⟨column, w, rfl⟩ := exists_of_mem_cells he
  rw [cellElement, Inline.ofBlock, htag]
  exact .intro (fun _ ↦ Inline.isStill_letters hdefinitions w.letters_ne_nil w.isAlpha)
    fun d hd ↦ absurd hd List.not_mem_nil

/-- No word of a table is markup. -/
theorem isCalm_element {setting : Inline.Setting} (hdefinitions : setting.definitions = []) :
    Inline.IsCalm setting (Inline.ofBlock t.element) := by
  have hsection (tag : Text) {rows : List Element}
      (hrows : ∀ e ∈ rows, Inline.IsCalm setting (Inline.ofBlock e)) :
      Inline.IsCalm setting (Inline.ofBlock (.mk tag [] none rows none)) := by
    rw [Inline.ofBlock]
    refine .intro (fun hopen ↦ absurd hopen Bool.false_ne_true) fun d hd ↦ ?_
    obtain ⟨e, he, rfl⟩ := Inline.mem_ofBlocks hd
    exact hrows e he
  refine hsection "table" fun e he ↦ ?_
  simp only [List.mem_cons, List.not_mem_nil, or_false] at he
  rcases he with rfl | rfl
  · refine hsection "thead" fun e he ↦ ?_
    rw [List.mem_singleton.mp he]
    exact isCalm_row hdefinitions (by decide)
  · refine hsection "tbody" fun e he ↦ ?_
    obtain ⟨row, -, rfl⟩ := List.mem_map.mp he
    exact isCalm_row hdefinitions (by decide)

theorem not_mem_innerTexts_cells (hx : x.isAlpha = false) :
    x ∉ Element.innerTexts (List.zipWith (cellElement tag) columns ws) := by
  induction columns generalizing ws with
  | nil => simp [Element.innerTexts]
  | cons column columns ih =>
    cases ws with
    | nil => simp [Element.innerTexts]
    | cons w ws =>
      have hw : x ∉ w.letters := Text.not_mem_of_all w.isAlpha hx
      simp [cellElement, Element.innerTexts, Element.innerText, hw, ih]

theorem not_mem_innerTexts_rows (hx : x.isAlpha = false) (rows : List (List Word)) :
    x ∉ Element.innerTexts (rows.map (rowElement tag columns)) := by
  induction rows with
  | nil => simp [Element.innerTexts]
  | cons row rows ih =>
    simp [rowElement, Element.innerTexts, Element.innerText, not_mem_innerTexts_cells hx, ih]

theorem not_mem_innerText_root (hx : x.isAlpha = false) : x ∉ t.root.innerText := by
  simp [root, element, rowElement, Element.innerTexts, Element.innerText,
    not_mem_innerTexts_cells hx, not_mem_innerTexts_rows hx]

theorem isHeadless_row (htag : headingTags.contains tag = false) :
    HeadingIds.isHeadless (rowElement tag columns ws) = true := by
  have hcells : HeadingIds.areHeadless (List.zipWith (cellElement tag) columns ws) = true := by
    refine HeadingIds.areHeadless_iff.mpr fun e he ↦ ?_
    obtain ⟨column, w, rfl⟩ := exists_of_mem_cells he
    rw [cellElement, HeadingIds.isHeadless, htag]
    rfl
  rw [rowElement, HeadingIds.isHeadless, hcells]
  decide

theorem isHeadless_root : HeadingIds.isHeadless t.root = true := by
  have hbody : HeadingIds.areHeadless (t.body.toList.map (rowElement "td" t.columns)) = true := by
    refine HeadingIds.areHeadless_iff.mpr fun e he ↦ ?_
    obtain ⟨row, -, rfl⟩ := List.mem_map.mp he
    exact isHeadless_row (by decide)
  have hhead : HeadingIds.isHeadless (rowElement "th" t.columns t.header) = true :=
    isHeadless_row (by decide)
  simp only [root, element, HeadingIds.isHeadless, HeadingIds.areHeadless, hbody, hhead]
  decide

/-! ### The document -/

theorem isUnmarked_source (t : WordTable) : IsUnmarked t.source where
  opening := not_mem_source rfl
  closing := not_mem_source rfl
  carriageReturn := not_mem_source rfl
  tab := not_mem_source rfl
  line line hline hall := by
    rw [lines_source] at hline
    obtain ⟨cells, rfl, -⟩ := exists_of_mem_lines (List.mem_of_mem_tail hline)
    exact absurd (List.all_eq_true.mp hall '|' List.mem_cons_self) Bool.false_ne_true
  notBlank := by
    obtain ⟨s, hs⟩ := exists_source_eq t
    rw [hs]
    rfl
  fence line hline := opener?_eq_none (Block.not_mem_lines (not_mem_source rfl) hline)
    (Block.not_mem_lines (not_mem_source rfl) hline)
  angle := not_mem_source rfl
  ampersand := not_mem_source rfl

/-- **A table is read with each word in its row and column, and each column with its placement**,
and no name is asked for. -/
theorem parse_table (t : WordTable) :
    Document.parse resolve? t.source = ⟨t.root, [], [], true⟩ := by
  have hinline : Inline.read ⟨[], resolve?⟩ t.root ⟨[], [], 0⟩ = (t.root, ⟨[], [], 0⟩) := by
    refine Inline.read_eq_self fun e he ↦ ?_
    rw [List.mem_singleton.mp he]
    exact isCalm_element rfl
  exact parse_of_blocks (isUnmarked_source t) (parse_source t) hinline
    (not_mem_innerText_root rfl) rfl isHeadless_root

end WordTable

/-! ### Writing the tree -/

namespace Writer

open WordTable (cellElement rowElement styleOf)

variable {style : Style} {rawHtml : List Text} {place : Place} {s : State} {t : WordTable}
  {ws : List Word} {columns : List (Option TableRow.Alignment)} {done : List Text}

/-- What the cells of a row say about the placement of columns: those of a header say it all. -/
def placements (tag : Text) (columns : List (Option TableRow.Alignment)) : List (Option Text) :=
  if tag == "th" then columns.map styleOf else []

theorem placements_cons {tag : Text} {column : Option TableRow.Alignment} :
    placements tag (column :: columns) = placements tag [column] ++ placements tag columns := by
  rw [placements, placements, placements]
  split <;> rfl

/-- A cell is opened for its word, and says what it says about its column. -/
theorem openElement_cell {tag : Text} (htag : tag = "th" ∨ tag = "td")
    (column : Option TableRow.Alignment) (w : Word) :
    openElement style place (cellElement tag column w) s =
      .ok ({ s with
        cell := some []
        alignments := s.alignments ++ placements tag [column] }, true) := by
  rcases htag with rfl | rfl
  · cases column with
    | none => rfl
    | some a => cases a <;> rfl
  · have hnone : placements "td" [column] = [] := rfl
    rw [hnone, List.append_nil]
    rfl

theorem closeElement_cell {tag cell : Text} (htag : tag = "th" ∨ tag = "td")
    (column : Option TableRow.Alignment) (w : Word) (hcell : s.cell = some cell)
    (hrow : s.row = some done) :
    closeElement style place (cellElement tag column w) s =
      { s with row := some (done ++ [Text.strip cell]), cell := none } := by
  have hkind : Kind.of (cellElement tag column w).tag (cellElement tag column w).attrs =
      .headerCell ∨ Kind.of (cellElement tag column w).tag (cellElement tag column w).attrs =
        .bodyCell := by
    rcases htag with rfl | rfl
    · exact Or.inl rfl
    · exact Or.inr rfl
  rw [closeElement]
  rcases hkind with hkind | hkind
  · simp only [hkind, hcell, hrow]
  · simp only [hkind, hcell, hrow]

theorem strip_letters (w : Word) : Text.strip w.letters = w.letters := by
  obtain ⟨c, rest, hletters, hc⟩ := w.exists_head
  obtain ⟨letters, d, hlast, hd⟩ := w.exists_last
  have hstart : Text.trimStart Text.isBlank w.letters = w.letters := by
    rw [hletters, Text.trimStart_eq_self (isBlank_of_isAlpha hc)]
  rw [Text.strip, Text.trim, hstart, hlast, Text.trimEnd_concat_of_false (isBlank_of_isAlpha hd)]

/-- The cell of a word adds it to the row. -/
theorem writeElement_cell {tag : Text} (htag : tag = "th" ∨ tag = "td")
    (column : Option TableRow.Alignment) (w : Word) (hrow : s.row = some done) :
    writeElement style rawHtml place (cellElement tag column w) s =
      .ok { s with
        row := some (done ++ [w.letters])
        cell := none
        alignments := s.alignments ++ placements tag [column] } := by
  have hopen := @openElement_cell style place s tag htag column w
  have hclose (s : State) (hcell : s.cell = some w.letters) (hrow : s.row = some done) :=
    @closeElement_cell style place s done tag w.letters htag column w hcell hrow
  rw [cellElement] at hopen hclose ⊢
  rw [writeElement, hopen]
  simp only [writeText?_letters w.letters_ne_nil w.isAlpha, State.put, List.nil_append]
  rw [writeAll]
  simp only
  rw [hclose _ (by rfl) (by exact hrow), strip_letters]

/-- **The cells of a row leave their words in order, and the placements of their columns.** -/
theorem writeAll_cells {tag : Text} (htag : tag = "th" ∨ tag = "td")
    (hlength : ws.length = columns.length) (hrow : s.row = some done) (hcell : s.cell = none) :
    writeAll style rawHtml place (List.zipWith (cellElement tag) columns ws) s =
      .ok { s with
        row := some (done ++ ws.map Word.letters)
        alignments := s.alignments ++ placements tag columns } := by
  induction columns generalizing ws s done place with
  | nil =>
    obtain rfl : ws = [] := List.length_eq_zero_iff.mp hlength
    have hnone : placements tag [] = [] := by rw [placements, List.map_nil, ite_self]
    rw [List.zipWith_nil_left, writeAll, List.map_nil, List.append_nil, hnone, List.append_nil,
      ← hrow]
  | cons column columns ih =>
    obtain ⟨w, ws, rfl⟩ : ∃ w rest, ws = w :: rest :=
      List.exists_cons_of_ne_nil fun h ↦ by simp [h] at hlength
    have hhere := @writeElement_cell style rawHtml place s done tag htag column w hrow
    have hnone (s : State) : writeText? style rawHtml none s = s := rfl
    rw [cellElement] at hhere
    rw [List.zipWith_cons_cons, cellElement, writeAll, hhere]
    simp only [hnone]
    rw [ih (Nat.succ.inj hlength) (by rfl) (by rfl), @placements_cons columns tag column]
    simp only [← hcell]
    simp

/-- A row of a table is added to those that have been read. -/
theorem writeElement_row {tag : Text} (htag : tag = "th" ∨ tag = "td")
    (hlength : ws.length = columns.length) (hrow : s.row = none) (hcell : s.cell = none) :
    writeElement style rawHtml place (rowElement tag columns ws) s =
      .ok { s with
        rows := s.rows ++ [ws.map Word.letters]
        alignments := s.alignments ++ placements tag columns } := by
  have hkind : Kind.of "tr" [] = .tableRow := by decide
  have hnone (s : State) : writeText? style rawHtml none s = s := rfl
  have hcells := @writeAll_cells style rawHtml ⟨"tr".toList :: place.ancestors, true⟩
    { s with row := some [] } ws columns [] tag htag hlength rfl hcell
  rw [rowElement, writeElement, openElement]
  simp only [Element.tag, Element.attrs, hkind, hnone, hcells]
  simp only [closeElement, Element.tag, Element.attrs, hkind, List.nil_append, ← hrow]

/-- **The rows of a table leave their words in order.** -/
theorem writeAll_rows {rows : List (List Word)}
    (hlength : ∀ row ∈ rows, row.length = columns.length) (hrow : s.row = none)
    (hcell : s.cell = none) :
    writeAll style rawHtml place (rows.map (rowElement "td" columns)) s =
      .ok { s with rows := s.rows ++ rows.map (·.map Word.letters) } := by
  induction rows generalizing s place with
  | nil => rw [List.map_nil, writeAll, List.map_nil, List.append_nil]
  | cons row rows ih =>
    have hhere := @writeElement_row style rawHtml place s row columns "td" (Or.inr rfl)
      (hlength row List.mem_cons_self) hrow hcell
    have hnone (s : State) : writeText? style rawHtml none s = s := rfl
    have hplaced : placements "td" columns = [] := rfl
    rw [rowElement, hplaced, List.append_nil] at hhere
    rw [List.map_cons, rowElement, writeAll, hhere]
    simp only [hnone]
    rw [ih (fun r hr ↦ hlength r (List.mem_cons_of_mem _ hr)) (by exact hrow) (by exact hcell)]
    simp

/-! ### The lines of a table -/

theorem map_range_getElem? {α β : Type} {l : List α} {n : Nat} (hn : n = l.length)
    (g : Option α → β) : (List.range n).map (fun i ↦ g l[i]?) = l.map fun a ↦ g (some a) := by
  refine List.ext_getElem (by simp [hn]) fun i hi _ ↦ ?_
  have hlength : i < l.length := by simpa [hn] using hi
  simp [hlength]

theorem join_letters (hne : ws ≠ []) :
    "| " ++ Text.join " | " (ws.map Word.letters) ++ " |" = rowLine ws := by
  induction ws with
  | nil => exact absurd rfl hne
  | cons w ws ih =>
    cases ws with
    | nil => simp [rowLine, barred, wordCell, Text.join]
    | cons v ws =>
      have hrest := ih (List.cons_ne_nil v ws)
      have hcons : rowLine (w :: v :: ws) = '|' :: (wordCell w ++ rowLine (v :: ws)) := barred_cons
      rw [hcons, ← hrest]
      simp [Text.join, wordCell]

/-- A row of words is written as its line. -/
theorem rowText_letters (hne : ws ≠ []) : rowText (ws.map Word.letters) = rowLine ws ++ ['\n'] := by
  have hcells : (ws.map Word.letters).map cellText = ws.map Word.letters := by
    rw [List.map_map]
    refine List.map_congr_left fun w _ ↦ ?_
    have hbar : '|' ∉ w.letters := Text.not_mem_of_all w.isAlpha rfl
    exact Text.replace_eq_self List.mem_cons_self hbar
  rw [rowText, hcells, ← join_letters hne]
  simp

theorem alignmentText_styleOf (column : Option TableRow.Alignment) :
    alignmentText (styleOf column) = separatorCell column ++ ['|'] := by
  cases column with
  | none => decide
  | some a => cases a <;> decide

theorem text_foldl_write {rows : List (List Word)} (f : List Word → Text) :
    (rows.foldl (fun s row ↦ s.write (f row)) s).output.text =
      s.output.text ++ rows.flatMap f := by
  induction rows generalizing s with
  | nil => rw [List.foldl_nil, List.flatMap_nil, List.append_nil]
  | cons row rows ih =>
    rw [List.foldl_cons, ih, State.write, Output.text_write, List.flatMap_cons, List.append_assoc]

/-- **At the end of a table its lines are written.** -/
theorem text_writeTable (hrows : s.rows = t.rows.map (·.map Word.letters))
    (hplaced : s.alignments = t.columns.map styleOf) :
    (writeTable s).output.text = s.output.text ++ t.lines.flatMap (· ++ ['\n']) := by
  have hlength {row : List Word} (hrow : row ∈ t.rows) :
      t.columns.length = (row.map Word.letters).length := by
    rw [List.length_map, WordTable.length_of_mem_rows hrow]
  have hseparator : (List.range t.columns.length).flatMap
      (fun i ↦ alignmentText (s.alignments[i]?).join) =
        (t.columns.map separatorCell).flatMap (· ++ ['|']) := by
    have hcount : t.columns.length = s.alignments.length := by rw [hplaced, List.length_map]
    rw [List.flatMap_def, map_range_getElem? hcount fun a ↦ alignmentText a.join, hplaced,
      List.map_map, List.flatMap_map, List.flatMap_def]
    exact congrArg List.flatten (List.map_congr_left fun column _ ↦ alignmentText_styleOf column)
  have hrow {row : List Word} (hrow : row ∈ t.rows) :
      rowText ((List.range t.columns.length).map fun i ↦ ((row.map Word.letters)[i]?).getD []) =
        rowLine row ++ ['\n'] := by
    have hself : (row.map Word.letters).map (fun a ↦ (some a).getD []) = row.map Word.letters :=
      List.map_id _
    rw [map_range_getElem? (hlength hrow) fun a ↦ a.getD [], hself,
      rowText_letters (WordTable.row_ne_nil hrow)]
  have hheader : t.header ∈ t.rows := List.mem_cons_self
  rw [writeTable, hrows, WordTable.rows, List.map_cons]
  simp only [← hlength hheader, List.foldl_map]
  rw [text_foldl_write, rowText_letters (WordTable.row_ne_nil hheader), hseparator,
    List.flatMap_congr fun row hmem ↦ hrow (List.mem_cons_of_mem _ hmem)]
  simp [State.write, WordTable.lines, separatorLine, barred, List.flatMap_map]

/-- The head or the body of a table is its rows. -/
theorem writeElement_section {tag : Text} {rows : List Element} {s' : State}
    (hkind : Kind.of tag [] = .tableSection)
    (hrows : writeAll style rawHtml ⟨tag :: place.ancestors, true⟩ rows s = .ok s') :
    writeElement style rawHtml place (.mk tag [] none rows none) s = .ok s' := by
  have hnone (s : State) : writeText? style rawHtml none s = s := rfl
  rw [writeElement, openElement]
  simp only [Element.tag, Element.attrs, hkind, hnone, hrows]
  simp only [closeElement, Element.tag, Element.attrs, hkind]

/-- A document of a table is written as its lines. -/
theorem write_table : write style t.root rawHtml = .ok t.source := by
  have hnone (s : State) : writeText? style rawHtml none s = s := rfl
  have hhead (place : Place) : writeElement style rawHtml place
      (.mk "thead" [] none [rowElement "th" t.columns t.header] none) {} =
        .ok { rows := [t.header.map Word.letters], alignments := t.columns.map styleOf } := by
    refine writeElement_section (by decide) ?_
    have hrow := @writeElement_row style rawHtml ⟨"thead".toList :: place.ancestors, true⟩ {}
      t.header t.columns "th" (Or.inl rfl) t.length_header rfl rfl
    rw [rowElement] at hrow
    rw [rowElement, writeAll, hrow]
    simp only [hnone]
    rw [writeAll]
    rfl
  have hbody (place : Place) : writeElement style rawHtml place
      (.mk "tbody" [] none (t.body.toList.map (rowElement "td" t.columns)) none)
      { rows := [t.header.map Word.letters], alignments := t.columns.map styleOf } =
        .ok { rows := t.rows.map (·.map Word.letters), alignments := t.columns.map styleOf } := by
    refine writeElement_section (by decide) ?_
    rw [writeAll_rows t.length_body rfl rfl]
    rfl
  have hkind : Kind.of "table" [] = .table := by decide
  have hstart : State.blankLine {} = {} := rfl
  have htext := @text_writeTable
    { rows := t.rows.map (·.map Word.letters), alignments := t.columns.map styleOf } t rfl rfl
  have hstrip : Text.stripEnd (t.lines.flatMap (· ++ ['\n'])) = t.source := by
    obtain ⟨u, hu⟩ := WordTable.exists_source_last t
    have hlines : t.lines.flatMap (· ++ ['\n']) = t.source ++ ['\n'] :=
      (Text.join_append_sep (List.cons_ne_nil _ _)).symm
    rw [hlines, Text.stripEnd, Text.trimEnd_concat_of_true rfl, hu,
      Text.trimEnd_concat_of_false rfl]
  rw [write, WordTable.root, WordTable.element]
  simp only [Element.children, Element.text, hnone]
  rw [writeAll, writeElement, openElement]
  simp only [Element.tag, Element.attrs, hkind, hstart, hnone]
  rw [writeAll, hhead]
  simp only [hnone]
  rw [writeAll, hbody]
  simp only [hnone]
  rw [writeAll]
  simp only [closeElement, Element.tag, Element.attrs, hkind]
  rw [writeAll]
  simp only [Except.map, htext]
  rw [← hstrip]
  rfl

end Writer

/-- **Tables survive being read and written**: the document of a table holds each word in its row
and column and each column's placement, it is written as its source, and no name in it is asked
for. -/
theorem write_parse_table (style : Writer.Style) (resolve? : Option (Text → Option Element))
    (t : WordTable) :
    let d := Document.parse resolve? t.source
    d.root = t.root ∧ Writer.write style d.root d.rawHtml = .ok t.source ∧ d.names = [] ∧
      d.isSound = true := by
  rw [WordTable.parse_table]
  exact ⟨rfl, Writer.write_table, rfl, rfl⟩

example :
    let word : Word := ⟨"ab", by decide, List.all_eq_true.mp rfl⟩
    let t : WordTable :=
      { columns := [none, some .left, some .center, some .right]
        header := [word, word, word, word]
        body := ⟨[word, word, word, word], []⟩
        columns_ne_nil := List.cons_ne_nil _ _
        length_header := rfl
        length_body := List.forall_mem_singleton.mpr rfl }
    t.source =
      ("| ab | ab | ab | ab |\n|---|:---|:---:|---:|\n| ab | ab | ab | ab |" : Text) := by
  decide

end ApiSite.Markup
