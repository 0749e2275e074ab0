import ApiSite.Page.Heading
import ApiSite.Proofs.Text

/-!
# The title that a text opens with

A text may open with a title of its own. One that repeats the title of the page is dropped with its
line; any other one becomes a heading of the second level. The line break behind it is dropped in
either case, so that the heading stands in one line with what followed it, and the lines of the text
are kept only where the title is the last one (`dropRepeatedTitle_heading`).
-/

set_option autoImplicit false

namespace ApiSite.Page

variable {s t line title : Text} {following : List Text}

/-! ### The title -/

theorem splitLine_of_notMem (ht : '\n' ∉ t) : splitLine t = (t, []) := by
  simp only [splitLine, Text.takeWhile_ne_eq_self ht, List.drop_length]

theorem splitLine_append (hs : '\n' ∉ s) (t : Text) :
    splitLine (s ++ '\n' :: t) = (Text.dropEnding "\r" s, t) := by
  simp only [splitLine, Text.takeWhile_append_stop hs, List.drop_left]

/-- The title of a text begins with the first character behind the mark that is not white space. -/
theorem openingTitle?_append (hline : Text.isBlankText line = false) (t : Text) :
    openingTitle? ("# " ++ (line ++ t)) = some (splitLine (Text.stripStart line ++ t)) := by
  cases hfound : Text.stripStart line with
  | nil =>
    have hblank : Text.isBlankText line = true :=
      List.all_eq_true.mpr (List.dropWhile_eq_nil_iff.mp hfound)
    exact absurd hblank (Bool.not_eq_true _ ▸ hline)
  | cons c found =>
    obtain ⟨blanks, rfl, hblanks, hc⟩ := Text.stripStart_eq_cons hfound
    have htext : "# " ++ (blanks ++ c :: found ++ t) =
        '#' :: ((' ' :: blanks) ++ c :: (found ++ t)) := by simp
    have hall : ∀ x ∈ ' ' :: blanks, Text.isBlank x = true :=
      List.forall_mem_cons.mpr ⟨by decide, hblanks⟩
    have htake : ((' ' :: blanks) ++ c :: (found ++ t)).takeWhile Text.isBlank = ' ' :: blanks :=
      Text.takeWhile_append_of_head? hall fun
        | _, rfl => hc
    rw [htext]
    simp only [openingTitle?, htake, List.drop_left]
    rfl

/-- The title of a line behind its number sign. A carriage return before a line feed is no part of
it. -/
def titleOf (line : Text) (following : List Text) : Text :=
  if following = [] then Text.stripStart line else Text.dropEnding "\r" (Text.stripStart line)

theorem strip_titleOf (line : Text) (following : List Text) :
    Text.strip (titleOf line following) = Text.strip line := by
  rw [titleOf]
  split
  · exact Text.trim_trimStart Text.isBlank line
  · rw [Text.strip_dropEnding]
    exact Text.trim_trimStart Text.isBlank line

theorem break_notMem_titleOf (hline : '\n' ∉ line) : '\n' ∉ titleOf line following := by
  have hstart : '\n' ∉ Text.stripStart line := mt ((List.dropWhile_suffix _).subset ·) hline
  rw [titleOf]
  split
  · exact hstart
  · rw [Text.dropEnding]
    split
    · exact mt List.mem_of_mem_take hstart
    · exact hstart

theorem break_notMem_of_lines (hlines : Text.lines t = ("# " ++ line) :: following) :
    '\n' ∉ line := fun hmem ↦
  Text.not_mem_of_mem_splitOn (hlines ▸ List.mem_cons_self) (List.mem_append_right _ hmem)

theorem openingTitle?_of_lines (hlines : Text.lines t = ("# " ++ line) :: following)
    (hline : Text.isBlankText line = false) :
    openingTitle? t = some (titleOf line following, Text.unlines following) := by
  have hbreak : '\n' ∉ Text.stripStart line :=
    mt ((List.dropWhile_suffix _).subset ·) (break_notMem_of_lines hlines)
  have ht : t = Text.unlines (("# " ++ line) :: following) :=
    hlines ▸ (Text.join_splitOn '\n' t).symm
  cases following with
  | nil =>
    have hopening := openingTitle?_append hline []
    rw [List.append_nil, List.append_nil, splitLine_of_notMem hbreak] at hopening
    rwa [ht]
  | cons next rest =>
    have ht' : t = ("# " : Text) ++ (line ++ '\n' :: Text.unlines (next :: rest)) := by
      rw [ht, Text.unlines, Text.join, List.append_assoc]
      rfl
    rw [ht', openingTitle?_append hline, splitLine_append hbreak]
    rfl

/-! ### The text without its title -/

/-- What is put in front of lines stands in the first of them. -/
theorem lines_append_unlines {start next : Text} {rest : List Text} (hstart : '\n' ∉ start)
    (hrest : ∀ piece ∈ next :: rest, '\n' ∉ piece) :
    Text.lines (start ++ Text.unlines (next :: rest)) = (start ++ next) :: rest := by
  obtain ⟨hnext, hrest⟩ := List.forall_mem_cons.mp hrest
  have hjoin : start ++ Text.unlines (next :: rest) = Text.unlines ((start ++ next) :: rest) := by
    rw [Text.unlines, Text.unlines, Text.join_cons, Text.join_cons, List.append_assoc]
  rw [hjoin]
  refine Text.splitOn_join (List.cons_ne_nil _ _) (List.forall_mem_cons.mpr ⟨?_, hrest⟩)
  exact fun hmem ↦ (List.mem_append.mp hmem).elim hstart hnext

theorem dropRepeatedTitle_of_eq (hlines : Text.lines t = ("# " ++ line) :: following)
    (hline : Text.isBlankText line = false)
    (hsame : comparable (Text.strip line) = comparable title) :
    dropRepeatedTitle title t = Text.stripStart (Text.unlines following) := by
  simp only [dropRepeatedTitle, openingTitle?_of_lines hlines hline, strip_titleOf, hsame,
    beq_self_eq_true, if_true]

theorem dropRepeatedTitle_of_ne (hlines : Text.lines t = ("# " ++ line) :: following)
    (hline : Text.isBlankText line = false)
    (hother : comparable (Text.strip line) ≠ comparable title) :
    dropRepeatedTitle title t = "## " ++ titleOf line following ++ Text.unlines following := by
  simp only [dropRepeatedTitle, openingTitle?_of_lines hlines hline, strip_titleOf, beq_iff_eq,
    if_neg hother]

/-- **A title takes the next line with it.** A text whose first line has a number sign and a title
is given without this line if the title repeats the page's. Otherwise the title becomes a heading,
in one line with what followed it, so that the lines of the text are kept exactly if there is none
behind the title. -/
theorem dropRepeatedTitle_heading (hlines : Text.lines t = ("# " ++ line) :: following)
    (hline : Text.isBlankText line = false) :
    (comparable (Text.strip line) = comparable title →
      dropRepeatedTitle title t = Text.stripStart (Text.unlines following)) ∧
    (comparable (Text.strip line) ≠ comparable title →
      (following = [] → dropRepeatedTitle title t = "## " ++ Text.stripStart line) ∧
      (∀ next rest, following = next :: rest → Text.lines (dropRepeatedTitle title t) =
        ("## " ++ Text.dropEnding "\r" (Text.stripStart line) ++ next) :: rest) ∧
      ((∃ heading, Text.lines (dropRepeatedTitle title t) = heading :: following) ↔
        following = [])) := by
  refine ⟨dropRepeatedTitle_of_eq hlines hline, fun hother ↦ ?_⟩
  have htext := dropRepeatedTitle_of_ne hlines hline hother
  have hstart : '\n' ∉ "## " ++ titleOf line following := fun hmem ↦
    (List.mem_append.mp hmem).elim (by decide)
      (break_notMem_titleOf (break_notMem_of_lines hlines))
  cases following with
  | nil =>
    have hheading : dropRepeatedTitle title t = "## " ++ titleOf line [] := by
      rw [htext, Text.unlines, Text.join, List.append_nil]
    refine ⟨fun _ ↦ hheading, fun next rest h ↦ absurd h.symm (List.cons_ne_nil next rest),
      ⟨fun _ ↦ rfl, fun _ ↦ ⟨"## " ++ titleOf line [], ?_⟩⟩⟩
    rw [hheading]
    exact Text.splitOn_eq_singleton hstart
  | cons next rest =>
    have hpieces : ∀ piece ∈ next :: rest, '\n' ∉ piece := fun piece hpiece ↦
      Text.not_mem_of_mem_splitOn (hlines ▸ List.mem_cons_of_mem _ hpiece)
    have hmerged := lines_append_unlines hstart hpieces
    rw [← htext] at hmerged
    have hne : next :: rest ≠ [] := List.cons_ne_nil next rest
    refine ⟨fun h ↦ absurd h hne, fun next' rest' h ↦ ?_, ⟨?_, fun h ↦ absurd h hne⟩⟩
    · obtain ⟨rfl, rfl⟩ := List.cons.inj h
      exact hmerged
    · -- The line that was joined to the heading is missing.
      rintro ⟨heading, hkept⟩
      have hlength := congrArg List.length (hmerged.symm.trans hkept)
      simp at hlength

theorem dropRepeatedTitle_heading_fruit :
    Text.lines "# Intro\nText" = [("# " : Text) ++ "Intro", "Text"] ∧
    Text.isBlankText "Intro" = false ∧ comparable (Text.strip "Intro") ≠ comparable "fruit" ∧
    Text.lines (dropRepeatedTitle "fruit" "# Intro\nText") = ["## IntroText"] := by
  have hlines : Text.lines "# Intro\nText" = [("# " : Text) ++ "Intro", "Text"] := by decide
  have hline : Text.isBlankText "Intro" = false := by decide
  have hother : comparable (Text.strip "Intro") ≠ comparable "fruit" := by decide
  have hmerged := ((dropRepeatedTitle_heading hlines hline).2 hother).2.1 "Text" [] rfl
  exact ⟨hlines, hline, hother, hmerged⟩

end ApiSite.Page
