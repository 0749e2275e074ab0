import ApiSite.Proofs.Markup.CodeSpans
import ApiSite.Proofs.Markup.FencedCode

/-!
# The end of a code block

A block of code begins with a line that has three or more backticks in front. It ends with the
first following line that is only spaces and at least as many backticks. `readBlock?` is this rule:
it gives the lines of the block and those behind it.

The fence written around a code has three backticks, whatever the code is. `readBlock?_writeElement`
says which codes stay in their blocks: the block ends at its last line, and not before, exactly if
the language does not begin with a backtick, which would make the opening fence longer than the
closing one, and no line of the code is such a fence itself. A line of the code is read as part of
the page exactly if a line of it ends the block.

Both follow from what the reading of lines is, a cut at the first line that ends the block
(`readLines?_append`, `readLines?_eq_none_iff`), and from the lines of what is written
(`exists_lines_fenced`).
-/

set_option autoImplicit false

namespace ApiSite.Markup.Writer

open Text (lines unlines)

variable {n : Nat} {language content t first : Text} {ls rest : List Text} {s : State}

/-! ### Reading a block -/

/-- Whether a line is only spaces and a run of at least `n` backticks. -/
def isFence (n : Nat) (line : Text) : Bool :=
  let line := Text.trim (· == ' ') line
  decide (n ≤ line.length) && line.all (· == '\x60')

/-- The lines before the first one that ends a block opened by `n` backticks, and those after it. -/
def readLines? (n : Nat) : List Text → Option (List Text × List Text)
  | [] => none
  | line :: rest =>
    if isFence n line then some ([], rest)
    else (readLines? n rest).map fun (body, behind) => (line :: body, behind)

/-- The lines of the block that a text begins with, and those behind the block. -/
def readBlock? (t : Text) : Option (List Text × List Text) :=
  match lines t with
  | [] => none
  | opening :: rest => if 3 ≤ ticksOf opening then readLines? (ticksOf opening) rest else none

/-- The reading goes on behind lines of which none ends the block. -/
theorem readLines?_append (ls' : List Text) : readLines? n (ls ++ ls') =
    match readLines? n ls with
    | some (body, behind) => some (body, behind ++ ls')
    | none => (readLines? n ls').map fun (body, behind) => (ls ++ body, behind) := by
  induction ls with
  | nil => cases h : readLines? n ls' <;> simp [readLines?, h]
  | cons line ls ih =>
    rw [List.cons_append, readLines?, readLines?]
    split_ifs with hfence
    · rfl
    · rw [ih]
      cases readLines? n ls with
      | none => cases readLines? n ls' <;> rfl
      | some found => rfl

theorem readLines?_eq_none_iff :
    readLines? n ls = none ↔ ∀ line ∈ ls, isFence n line = false := by
  induction ls with
  | nil => simp [readLines?]
  | cons line ls ih =>
    rw [readLines?, List.forall_mem_cons, ← ih]
    split_ifs with hfence
    · exact iff_of_false nofun fun h ↦ Bool.false_ne_true (h.1.symm.trans hfence)
    · rw [Option.map_eq_none_iff, and_iff_right (Bool.eq_false_iff.mpr hfence)]

/-- A block ends at its last line if that is a fence and no other line is one. -/
theorem readLines?_concat_eq_iff (last : Text) : readLines? n (ls ++ [last]) = some (ls, []) ↔
    isFence n last = true ∧ ∀ line ∈ ls, isFence n line = false := by
  rw [readLines?_append, ← readLines?_eq_none_iff]
  cases readLines? n ls with
  | none => cases h : isFence n last <;> simp [readLines?, h]
  | some found => simp

/-- Lines stand behind a block if a line before the last one ends it. -/
theorem exists_readLines?_concat_iff (last : Text) :
    (∃ body behind, readLines? n (ls ++ [last]) = some (body, behind) ∧ behind ≠ []) ↔
      ∃ line ∈ ls, isFence n line = true := by
  have hnone : (¬∃ line ∈ ls, isFence n line = true) ↔ readLines? n ls = none := by
    simp [readLines?_eq_none_iff]
  rw [← not_iff_not, hnone, readLines?_append]
  cases readLines? n ls with
  | none => cases h : isFence n last <;> simp [readLines?, h]
  | some found => simp

/-! ### The lines that are written -/

/-- The lines between the first and the last one of a block: the rest of the language, of which one
line is in the opening fence, and the code. -/
def blockBody (language content : Text) : List Text := (lines (language ++ '\n' :: content)).tail

/-- With a language of one line, these are the lines of the code. -/
theorem blockBody_eq_lines (hlanguage : '\n' ∉ language) :
    blockBody language content = lines content := by
  rw [blockBody, lines, Text.splitOn_append hlanguage, List.tail_cons]

theorem lines_ticks_append (h : lines t = first :: rest) :
    lines (ticks ++ t) = (ticks ++ first) :: rest := by
  have hstep {c : Char} {u piece : Text} (hc : c ≠ '\n') (hu : lines u = piece :: rest) :
      lines (c :: u) = (c :: piece) :: rest := by
    rw [lines, Text.splitOn, ← lines, hu]
    exact if_neg hc
  exact hstep (by decide) (hstep (by decide) (hstep (by decide) h))

/-- The backticks in front of a text are those in front of its first line. -/
theorem ticksOf_of_lines (h : lines t = first :: rest) : ticksOf t = ticksOf first := by
  have hjoin : unlines (first :: rest) = t := h ▸ Text.join_splitOn '\n' t
  cases rest with
  | nil => exact congrArg ticksOf hjoin.symm
  | cons second rest =>
    rw [← hjoin]
    exact ticksOf_append_cons (by decide)

/-- The lines of a block: the opening fence with the language, those between, and the closing
fence. -/
theorem exists_lines_fenced (language content : Text) :
    ∃ opening,
      lines (fenced language content) = opening :: (blockBody language content ++ [ticks]) ∧
      ticksOf opening = 3 + ticksOf language := by
  obtain ⟨first, rest, hsplit⟩ :=
    List.exists_cons_of_ne_nil (Text.splitOn_ne_nil '\n' (language ++ '\n' :: content))
  have hbody : blockBody language content = rest := congrArg List.tail hsplit
  refine ⟨ticks ++ first, ?_, ?_⟩
  · have hclosing : lines (fenced language content) =
        lines (ticks ++ (language ++ '\n' :: content)) ++ [ticks] := by
      rw [← List.append_assoc]
      exact Text.splitOn_append_cons '\n' _ _
    rw [hclosing, lines_ticks_append hsplit, hbody, List.cons_append]
  · have hfirst : ticksOf first = ticksOf language :=
      (ticksOf_of_lines hsplit).symm.trans (ticksOf_append_cons (by decide))
    have hticks : ticksOf (ticks ++ first) = ticksOf first + 3 := rfl
    rw [hticks, hfirst, Nat.add_comm]

theorem isFence_ticks_iff : isFence n ticks = true ↔ n ≤ 3 := by
  have hfence : isFence n ticks = (decide (n ≤ 3) && true) := rfl
  rw [hfence, Bool.and_true, decide_eq_true_iff]

theorem readBlock?_fenced (language content : Text) : readBlock? (fenced language content) =
    readLines? (3 + ticksOf language) (blockBody language content ++ [ticks]) := by
  obtain ⟨opening, hlines, hticks⟩ := exists_lines_fenced language content
  rw [readBlock?, hlines]
  simp only [hticks, if_pos (Nat.le_add_right 3 _)]

/-- A block ends at its last line, and not before, exactly if its opening fence is no longer than
the closing one and no line between is a fence. -/
theorem readBlock?_fenced_eq_iff (language content : Text) :
    readBlock? (fenced language content) = some (blockBody language content, []) ↔
      ticksOf language = 0 ∧ ∀ line ∈ blockBody language content, isFence 3 line = false := by
  rw [readBlock?_fenced, readLines?_concat_eq_iff, isFence_ticks_iff]
  constructor
  · rintro ⟨hshort, hlines⟩
    have hzero : ticksOf language = 0 := by omega
    rw [hzero] at hlines
    exact ⟨hzero, hlines⟩
  · rintro ⟨hzero, hlines⟩
    rw [hzero]
    exact ⟨le_rfl, hlines⟩

/-! ### The block that is written -/

/-- Outside of list items, a code stands between its fences as it is. -/
theorem writeFence_eq (language code : Text) (hitems : s.itemWidths = []) :
    ∃ o, writeFence language code s = { s with output := o } ∧
      o.text = s.output.text ++ fenced language (Text.trimEnd (· == '\n') code) := by
  have hindent : s.indent = [] := by
    rw [State.indent, hitems]
    rfl
  refine ⟨_, by simp only [writeFence, hindent, List.isEmpty_nil, if_true, State.write]; rfl, ?_⟩
  simp [fenced, ticks]

/-- **A block of code ends at its own fence** where its code lets it: outside of list items, a
preformatted element that holds one code element adds a blank line and one block to the page. With
a language of one line, the lines between its fences are those of the code. Read on its own, the
block ends at its last line and not before exactly if the language does not begin with a backtick
and no line between is only spaces and at least three backticks. A line stands behind the block, to
be read as part of the page, exactly if such a line is as long as the opening fence. -/
theorem readBlock?_writeElement (style : Style) (rawHtml : List Text) (place : Place)
    (preAttrs attrs : Attrs) (preText text preTail tail : Option Text) (children : List Element)
    (hitems : s.itemWidths = []) :
    let code := Element.mk "code" attrs text children tail
    let language := languageOf style attrs
    let content := Text.trimEnd (· == '\n') (Inline.Rule.unescapeCode code.innerText)
    let block := fenced language content
    let body := blockBody language content
    (∃ o, writeElement style rawHtml place (.mk "pre" preAttrs preText [code] preTail) s =
        .ok { s with output := o } ∧ o.text = s.output.blankLine.text ++ block) ∧
      ('\n' ∉ language → body = lines content) ∧
      (readBlock? block = some (body, []) ↔
        ticksOf language = 0 ∧ ∀ line ∈ body, isFence 3 line = false) ∧
      ((∃ before behind, readBlock? block = some (before, behind) ∧ behind ≠ []) ↔
        ∃ line ∈ body, isFence (3 + ticksOf language) line = true) := by
  intro code language content block body
  refine ⟨?_, blockBody_eq_lines, readBlock?_fenced_eq_iff language content, ?_⟩
  · have hkind : Kind.of "pre" preAttrs = .preformatted := rfl
    have hsole : soleCode? [code] = some code := rfl
    have hitems' : s.blankLine.itemWidths = [] := hitems
    obtain ⟨o, hwrite, ho⟩ :=
      writeFence_eq language (Inline.Rule.unescapeCode code.innerText) hitems'
    refine ⟨o, ?_, ho⟩
    rw [writeElement, openElement]
    simp only [Element.tag, Element.attrs, Element.children, hkind, hsole]
    exact congrArg Except.ok hwrite
  · rw [readBlock?_fenced]
    exact exists_readLines?_concat_iff ticks

/-- A code that begins with a fence: the lines from the next one on are read as part of the page. -/
theorem readBlock?_writeElement_ticks :
    let code := Element.mk "code" [] (some "\x60\x60\x60\n&lt;b&gt;") [] none
    let block := fenced "dart" "\x60\x60\x60\n<b>"
    ({} : State).itemWidths = [] ∧
      (∃ o, writeElement ⟨[], "dart"⟩ [] ⟨[], true⟩ (.mk "pre" [] none [code] none) {} =
        .ok { ({} : State) with output := o } ∧ o.text = block) ∧
      readBlock? block ≠ some (["\x60\x60\x60".toList, "<b>".toList], []) ∧
      ∃ before behind, readBlock? block = some (before, behind) ∧ behind ≠ [] := by
  intro code block
  have hitems : ({} : State).itemWidths = [] := rfl
  obtain ⟨hwrite, -, hends, hbehind⟩ :=
    readBlock?_writeElement (s := {}) ⟨[], "dart"⟩ [] ⟨[], true⟩ [] []
      none (some "\x60\x60\x60\n&lt;b&gt;") none none [] hitems
  have hline : ticks ∈ blockBody "dart" "\x60\x60\x60\n<b>" := List.mem_cons_self
  refine ⟨hitems, hwrite, fun heq ↦ ?_, hbehind.mpr ⟨ticks, hline, rfl⟩⟩
  exact Bool.false_ne_true ((hends.mp heq).2 ticks hline).symm

end ApiSite.Markup.Writer
