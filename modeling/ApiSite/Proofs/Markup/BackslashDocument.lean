import ApiSite.Proofs.Markup.Stages
import ApiSite.Proofs.Markup.Writer
import ApiSite.Proofs.Markup.Inline.Backslashes

/-!
# Documents of escaped text

The document of escaped text has a paragraph for each of the text's own, with a mark in the place of
each escaped character and without any element in it (`EscapedText.parse_escaped`). The writer finds
none of the characters in it that it would escape, and turns each mark back into a backslash and the
character (`Mark.restoreBackslashes_signs`). So escaped punctuation is never markup, and it is
written as it stood.
-/

set_option autoImplicit false

namespace ApiSite.Markup

open Text (lines)
open Inline (given)

variable {ss : List Sign} {t line : Text} {ts : List Text} {x : Char} {d : EscapedText}

/-! ### The texts of the tree -/

/-- The characters of escaped text in a tree. -/
def isMarkedChar (c : Char) : Bool :=
  c.isAlpha || c == ' ' || c == '\n' || c.isDigit || c == Mark.opening || c == Mark.closing

theorem IsSigned.isMarkedChar (h : IsSigned ss) (hx : x ∈ markedOfSigns ss) :
    Markup.isMarkedChar x = true := by
  obtain ⟨a, ha, hx⟩ := List.mem_flatMap.mp hx
  cases a with
  | plain c =>
    rw [Sign.marked, List.mem_singleton] at hx
    rcases hx ▸ h.plain ha with halpha | rfl | rfl
    · simp [Markup.isMarkedChar, halpha]
    · rfl
    · rfl
  | escaped c =>
    simp only [Sign.marked, Mark.escaped, List.cons_append, List.mem_cons, List.mem_append,
      List.not_mem_nil, or_false] at hx
    rcases hx with rfl | hx | rfl
    · rfl
    · simp [Markup.isMarkedChar, Text.isDigit_of_mem_ofNat hx]
    · rfl

theorem IsSigned.not_mem_marked (h : IsSigned ss) (hx : Markup.isMarkedChar x = false) :
    x ∉ markedOfSigns ss := Text.not_mem_of_all (fun _ ↦ h.isMarkedChar) hx

theorem IsEscaped.markedOfSigns_ne_nil (h : IsEscaped ss) : markedOfSigns ss ≠ [] := by
  obtain ⟨a, rest, rfl, -⟩ := h.head
  cases a with
  | plain c => exact List.cons_ne_nil _ _
  | escaped c => exact List.cons_ne_nil _ _

/-- The element of a paragraph. -/
def EscapedParagraph.element (p : EscapedParagraph) : Element :=
  .ofText "p" (markedOfSigns (signs p))

/-- The tree of a text. -/
def EscapedText.root (d : EscapedText) : Element :=
  .mk "div" [] none (d.toList.map EscapedParagraph.element) none

theorem innerTexts_ofText {α : Type} {tag : Text} {g : α → Text} {l : List α} :
    Element.innerTexts (l.map fun a ↦ .ofText tag (g a)) = l.flatMap g := by
  induction l with
  | nil => rfl
  | cons a l ih =>
    rw [List.map_cons, Element.ofText, Element.innerTexts, Element.innerText, ih]
    simp [Element.innerTexts]

/-! ### The source -/

theorem mem_lines_blocks (hline : line ∈ lines (ts.flatMap (· ++ ['\n', '\n']))) :
    line = [] ∨ ∃ t ∈ ts, line ∈ lines t := by
  induction ts with
  | nil => exact Or.inl (List.mem_singleton.mp hline)
  | cons t ts ih =>
    have hblank (s : Text) : lines ('\n' :: s) = [] :: lines s :=
      Text.splitOn_append_cons '\n' [] s
    have hsplit : lines ((t :: ts).flatMap (· ++ ['\n', '\n'])) =
        lines t ++ [] :: lines (ts.flatMap (· ++ ['\n', '\n'])) := by
      rw [List.flatMap_cons, List.append_assoc, ← hblank]
      exact Text.splitOn_append_cons '\n' t _
    rw [hsplit] at hline
    rcases List.mem_append.mp hline with hline | hline
    · exact Or.inr ⟨t, List.mem_cons_self, hline⟩
    · rcases List.mem_cons.mp hline with hline | hline
      · exact Or.inl hline
      · rcases ih hline with hline | ⟨u, hu, hline⟩
        · exact Or.inl hline
        · exact Or.inr ⟨u, List.mem_cons_of_mem _ hu, hline⟩

namespace EscapedText

theorem isSignChar_source (hx : x ∈ source d) : isSignChar x = true := by
  rcases Doc.mem_joined hx with hx | ⟨p, -, hx⟩
  · simp only [List.mem_cons, List.not_mem_nil, or_false, or_self] at hx
    rw [hx]
    rfl
  · exact (EscapedParagraph.isEscaped_signs p).toIsSigned.isSignChar hx

theorem beginsPlainly_of_mem_lines (hline : line ∈ lines (source d)) :
    line = [] ∨ BeginsPlainly line := by
  have hmem : line ∈ lines (source d ++ ['\n', '\n']) := by
    rw [lines_append_blankLine]
    exact List.mem_append_left _ hline
  rw [source_append_blankLine] at hmem
  rcases mem_lines_blocks hmem with hmem | ⟨t, ht, hmem⟩
  · exact Or.inl hmem
  · obtain ⟨p, -, rfl⟩ := List.mem_map.mp ht
    exact Or.inr (EscapedParagraph.beginsPlainly_of_mem_lines hmem)

theorem isUnmarked_source : IsUnmarked (source d) where
  opening := Text.not_mem_of_all (fun _ ↦ isSignChar_source) rfl
  closing := Text.not_mem_of_all (fun _ ↦ isSignChar_source) rfl
  carriageReturn := Text.not_mem_of_all (fun _ ↦ isSignChar_source) rfl
  tab := Text.not_mem_of_all (fun _ ↦ isSignChar_source) rfl
  angle := Text.not_mem_of_all (fun _ ↦ isSignChar_source) rfl
  ampersand := Text.not_mem_of_all (fun _ ↦ isSignChar_source) rfl
  line line hline hall := by
    rcases beginsPlainly_of_mem_lines (List.mem_of_mem_tail hline) with hline | hline
    · exact hline
    · obtain ⟨c, s, rfl⟩ := hline.exists_eq
      have hspace : c ≠ ' ' := hline.ne rfl (by decide)
      exact absurd (by simpa using List.all_eq_true.mp hall c List.mem_cons_self) hspace
  notBlank := by
    obtain ⟨c, s, hhead, hblank⟩ := (EscapedParagraph.isParagraph_source d.first).head
    rw [source, Doc.Many.joined, hhead, List.cons_append, Text.isBlankText, List.all_cons, hblank,
      Bool.false_and]
  fence line hline := by
    rcases beginsPlainly_of_mem_lines hline with rfl | hline
    · rfl
    · exact hline.opener?_eq_none

/-- **A source of escaped text is read as its paragraphs, with a mark for each escaped
character.** -/
theorem parse_escaped {resolve? : Option (Text → Option Element)} :
    Document.parse resolve? (source d) = ⟨root d, [], [], true⟩ := by
  have hread := @Inline.read_of_isRead ⟨[], resolve?⟩ ⟨[], [], 0⟩ EscapedParagraph d.toList
    (fun p ↦ sourceOfSigns (EscapedParagraph.signs p)) _
    fun p _ ↦ Inline.isRead_signs rfl (EscapedParagraph.isEscaped_signs p)
  have hroot : (d.toList.map fun p ↦
      .mk "p" [] (Inline.runText (Inline.runOf (markedOfSigns (EscapedParagraph.signs p))))
        (Inline.finishedAll []) none) = d.toList.map EscapedParagraph.element := by
    refine List.map_congr_left fun p _ ↦ ?_
    have hne := (EscapedParagraph.isEscaped_signs p).markedOfSigns_ne_nil
    rw [Inline.runText_runOf, Inline.given_eq_some hne]
    rfl
  have hbrace : '\x7b' ∉ (root d).innerText := by
    have htexts : (root d).innerText =
        d.toList.flatMap fun p ↦ markedOfSigns (EscapedParagraph.signs p) := by
      rw [root, Element.innerText]
      exact innerTexts_ofText
    rw [htexts]
    intro hmem
    obtain ⟨p, -, hmem⟩ := List.mem_flatMap.mp hmem
    exact (EscapedParagraph.isEscaped_signs p).toIsSigned.not_mem_marked rfl hmem
  have hheadless : HeadingIds.isHeadless (root d) = true := by
    have hparagraphs : HeadingIds.areHeadless (d.toList.map EscapedParagraph.element) = true := by
      refine HeadingIds.areHeadless_iff.mpr fun e he ↦ ?_
      obtain ⟨p, -, rfl⟩ := List.mem_map.mp he
      rfl
    rw [root, HeadingIds.isHeadless, hparagraphs]
    rfl
  have hnames : (d.toList.flatMap fun _ ↦ ([] : List Text)) = [] :=
    List.flatMap_eq_nil_iff.mpr fun _ _ ↦ rfl
  simp only [hroot, hnames, List.append_nil] at hread
  exact parse_of_blocks isUnmarked_source (parse_source d) hread hbrace rfl hheadless

end EscapedText

/-! ### Writing the tree -/

/-- The text of marks becomes the source of its signs. -/
theorem Mark.restoreBackslashes_signs (h : IsSigned ss) :
    Mark.restoreBackslashes (markedOfSigns ss) = sourceOfSigns ss := by
  induction ss with
  | nil => rfl
  | cons a ss ih =>
    have hrest := ih h.of_cons
    cases a with
    | plain c =>
      have hopening : c ≠ Mark.opening :=
        h.ne_of_plain List.mem_cons_self rfl (by decide) (by decide)
      rw [markedOfSigns, List.flatMap_cons, Sign.marked, List.singleton_append,
        Mark.restoreBackslashes, Mark.substitute_cons hopening]
      exact congrArg (c :: ·) hrest
    | escaped c =>
      rw [markedOfSigns, List.flatMap_cons, Sign.marked, Mark.restoreBackslashes_escaped_append]
      exact congrArg ('\\' :: c :: ·) hrest

namespace Writer

variable {style : Style} {rawHtml : List Text}

theorem plainText_signs {inLink : Bool} (h : IsSigned ss) :
    plainText style rawHtml inLink (markedOfSigns ss) = sourceOfSigns ss := by
  have hraw (value : Nat → Text) :
      Mark.substitute "wzxhzdk:" value (markedOfSigns ss) = markedOfSigns ss :=
    Mark.substitute_eq_self_of_not_mem (x := ':') (by decide) (h.not_mem_marked rfl)
  have hescape : AngleBrackets.escape style.safeTags (markedOfSigns ss) = markedOfSigns ss :=
    escape_eq_self (h.not_mem_marked rfl) (h.not_mem_marked rfl)
  cases inLink with
  | true => rw [plainText, if_pos rfl, hraw, Mark.restoreBackslashes_signs h]
  | false =>
    rw [plainText, if_neg Bool.false_ne_true, hraw, hescape, Mark.restoreBackslashes_signs h]

theorem isWritten_signs (h : IsEscaped ss) :
    IsWritten style rawHtml (some (markedOfSigns ss)) [] (sourceOfSigns ss) where
  inside place s hcell hlink := by
    obtain ⟨c, t, hmarked⟩ := List.exists_cons_of_ne_nil h.markedOfSigns_ne_nil
    have htext : writeText? style rawHtml (some (markedOfSigns ss)) s =
        s.put (sourceOfSigns ss) := by
      rw [hmarked, writeText?, writeText, ← hmarked, plainText_signs h.toIsSigned]
      exact List.cons_ne_nil c t
    refine ⟨s.output.write (sourceOfSigns ss), ?_, Output.text_write⟩
    rw [htext, State.put_eq_write hcell, writeAll]
    rfl
  last := h.exists_last

/-- The tree of escaped text is written as its source. -/
theorem write_escaped (d : EscapedText) :
    write style d.root rawHtml = .ok d.source := by
  have hwrite := @write_of_isWritten style rawHtml EscapedParagraph d.toList
    (fun p ↦ some (markedOfSigns (EscapedParagraph.signs p))) (fun _ ↦ [])
    (fun p ↦ sourceOfSigns (EscapedParagraph.signs p)) (List.cons_ne_nil _ _)
    fun p _ ↦ isWritten_signs (EscapedParagraph.isEscaped_signs p)
  rwa [Doc.join_toList] at hwrite

end Writer

/-- **Escaped punctuation stays escaped**: the document of escaped text is its paragraphs, each a
text with a mark for each escaped character and no element in it, it is written as its source, and
no name in it is asked for. -/
theorem write_parse_escaped (style : Writer.Style) (resolve? : Option (Text → Option Element))
    (d : EscapedText) :
    let parsed := Document.parse resolve? d.source
    parsed.root = d.root ∧ Writer.write style parsed.root parsed.rawHtml = .ok d.source ∧
      parsed.names = [] ∧ parsed.isSound = true := by
  rw [EscapedText.parse_escaped]
  exact ⟨rfl, Writer.write_escaped d, rfl, rfl⟩

example :
    let word : EscapedWord :=
      { signs := [.escaped '-', .plain 'a', .escaped '\\', .escaped '|']
        signs_ne_nil := List.cons_ne_nil _ _
        isAlpha := by simp
        escapable := by simp [Inline.Rule.escapable] }
    let line : EscapedLine := ⟨word, [word]⟩
    EscapedText.source ⟨⟨line, [line]⟩, []⟩ =
      ("\\-a\\\\\\| \\-a\\\\\\|\n\\-a\\\\\\| \\-a\\\\\\|" : Text) := by
  decide

end ApiSite.Markup
