import ApiSite.Proofs.Markup.Stages
import ApiSite.Proofs.Markup.Inline.Answer

/-!
# Documents of running text

A document whose source is running texts with blank lines between them is a paragraph for each of
them, in which each name has given way to its answer (`parse_paragraphs`): nothing is set aside,
there are no attribute lists in it, and no headings that want an id.
-/

set_option autoImplicit false

namespace ApiSite.Markup

open Inline (answers given lead paragraphOf)

variable {as : List Atom} {ps : List (List Atom)} {r : Text → Element}
  {resolve : Text → Option Element} {letters rawText : Text}

/-- An element that shows the letters of a name and is no heading. -/
def IsAnswer (letters : Text) (e : Element) : Prop :=
  ∃ tag attrs, e = .mk tag attrs (some letters) [] none ∧ headingTags.contains tag = false

theorem IsAnswer.isLeaf {e : Element} (h : IsAnswer letters e) : Inline.IsLeaf e := by
  obtain ⟨tag, attrs, rfl, -⟩ := h
  exact ⟨tag, attrs, letters, rfl⟩

/-! ### The texts of a paragraph -/

/-- The texts in a paragraph are its source without brackets. -/
theorem lead_append_innerTexts (has : ∀ letters ∈ namesOf as, IsAnswer letters (r letters)) :
    lead as ++ Element.innerTexts (answers r as) = writtenWith id as := by
  induction as with
  | nil => rfl
  | cons a as ih =>
    cases a with
    | char c => exact congrArg (c :: ·) (ih has)
    | name letters =>
      obtain ⟨tag, attrs, hr, -⟩ := has letters List.mem_cons_self
      have hrest := ih fun l hl ↦ has l (List.mem_cons_of_mem _ hl)
      have hset (tail : Option Text) : (r letters).setTail tail =
          .mk tag attrs (some letters) [] tail := by rw [hr]; rfl
      rw [answers, hset, Element.innerTexts, Element.innerText, Inline.getD_given,
        List.append_assoc, hrest]
      simp [lead, writtenWith, Atom.written, Element.innerTexts]

theorem innerTexts_paragraphs
    (hps : ∀ letters ∈ ps.flatMap namesOf, IsAnswer letters (r letters)) :
    Element.innerTexts (ps.map (paragraphOf r)) = ps.flatMap (writtenWith id) := by
  induction ps with
  | nil => rfl
  | cons p ps ih =>
    rw [List.flatMap_cons] at hps
    rw [List.map_cons, paragraphOf, Element.innerTexts, Element.innerText, Inline.getD_given,
      lead_append_innerTexts fun l hl ↦ hps l (List.mem_append_left _ hl),
      ih fun l hl ↦ hps l (List.mem_append_right _ hl)]
    simp

theorem isPlain_of_mem_writtenWith (has : IsSpelled as) {x : Char} (hx : x ∈ writtenWith id as) :
    isPlain x = true := by
  refine has.isPlain ?_
  obtain ⟨a, ha, hx⟩ := List.mem_flatMap.mp hx
  refine List.mem_flatMap.mpr ⟨a, ha, ?_⟩
  cases a with
  | char c => exact hx
  | name letters => exact List.mem_cons_of_mem _ (List.mem_append_left _ hx)

/-! ### Headings -/

theorem areHeadless_answers (has : ∀ letters ∈ namesOf as, IsAnswer letters (r letters)) :
    HeadingIds.areHeadless (answers r as) = true := by
  induction as with
  | nil => rfl
  | cons a as ih =>
    cases a with
    | char c => exact ih has
    | name letters =>
      obtain ⟨tag, attrs, hr, htag⟩ := has letters List.mem_cons_self
      have hrest := ih fun l hl ↦ has l (List.mem_cons_of_mem _ hl)
      rw [answers, hr, Element.setTail]
      simp only [Element.tag, Element.children, HeadingIds.areHeadless, HeadingIds.isHeadless,
        htag, hrest, Bool.not_false, Bool.and_self]

theorem areHeadless_paragraphs
    (hps : ∀ letters ∈ ps.flatMap namesOf, IsAnswer letters (r letters)) :
    HeadingIds.areHeadless (ps.map (paragraphOf r)) = true := by
  have hheading : headingTags.contains ("p" : Text) = false := by decide
  refine HeadingIds.areHeadless_iff.mpr fun e he ↦ ?_
  obtain ⟨p, hp, rfl⟩ := List.mem_map.mp he
  have hanswers := areHeadless_answers fun l hl ↦ hps l (List.mem_flatMap.mpr ⟨p, hp, hl⟩)
  rw [paragraphOf, HeadingIds.isHeadless, hheading, hanswers]
  rfl

/-! ### The document -/

/-- Running texts as a source, with a blank line between two of them. -/
def sourceOfAll (ps : List (List Atom)) : Text := Text.join ['\n', '\n'] (ps.map sourceOf)

theorem sourceOfAll_append_blankLine (hne : ps ≠ []) :
    sourceOfAll ps ++ ['\n', '\n'] = paragraphsText ps := join_append_blankLine hne

theorem isPlain_sourceOfAll (hps : ∀ p ∈ ps, IsRunning p) {x : Char} (hx : x ∈ sourceOfAll ps) :
    isPlain x = true := by
  cases ps with
  | nil => cases hx
  | cons p ps =>
    refine isPlain_paragraphsText hps ?_
    rw [← sourceOfAll_append_blankLine (List.cons_ne_nil p ps)]
    exact List.mem_append_left _ hx

theorem isBlankText_sourceOfAll (hne : ps ≠ []) (hps : ∀ p ∈ ps, IsRunning p) :
    Text.isBlankText (sourceOfAll ps) = false := by
  obtain ⟨p, ps, rfl⟩ := List.exists_cons_of_ne_nil hne
  obtain ⟨c, t, hsource, hblank⟩ := (hps p List.mem_cons_self).exists_head
  have hstart : ∃ rest, sourceOfAll (p :: ps) = c :: rest := by
    cases ps with
    | nil => exact ⟨t, hsource⟩
    | cons q ps =>
      rw [sourceOfAll, List.map_cons, List.map_cons, Text.join, hsource]
      exact ⟨_, rfl⟩
  obtain ⟨rest, hrest⟩ := hstart
  rw [hrest, Text.isBlankText, List.all_cons, hblank, Bool.false_and]

/-- **A source of running texts is read as its paragraphs, with an answer for each name.** -/
theorem parse_paragraphs (hne : ps ≠ []) (hps : ∀ p ∈ ps, IsRunning p)
    (hr : ∀ letters ∈ ps.flatMap namesOf, resolve letters = some (r letters))
    (hanswer : ∀ letters ∈ ps.flatMap namesOf, IsAnswer letters (r letters)) :
    Document.parse (some resolve) (sourceOfAll ps) =
      ⟨.mk "div" [] none (ps.map (paragraphOf r)) none, [], ps.flatMap namesOf, true⟩ := by
  have hplain {x : Char} (hx : isPlain x = false) : x ∉ sourceOfAll ps :=
    Text.not_mem_of_all (fun _ ↦ isPlain_sourceOfAll hps) hx
  have hindent := paragraphsText_isChain hps
  rw [← sourceOfAll_append_blankLine hne] at hindent
  have hunmarked : IsUnmarked (sourceOfAll ps) :=
    { isUniform_of_isPlain (fun x hx ↦ isPlain_sourceOfAll hps hx) hindent.left_of_append with
      notBlank := isBlankText_sourceOfAll hne hps
      fence := fun line hline ↦ opener?_eq_none (Block.not_mem_lines (hplain rfl) hline)
        (Block.not_mem_lines (hplain rfl) hline)
      angle := hplain rfl
      ampersand := hplain rfl }
  have hblocks : Block.parse [] (sourceOfAll ps ++ ['\n', '\n']) =
      (.mk "div" [] none (ps.map fun p ↦ .ofText "p" (sourceOf p)) none, []) := by
    rw [sourceOfAll_append_blankLine hne, Block.parse_paragraphs hps]
  have hinline := @Inline.read_paragraphs ps ⟨[], some resolve⟩ r resolve ⟨[], [], 0⟩ rfl hps hr
    fun l hl ↦ (hanswer l hl).isLeaf
  have hbrace : '\x7b' ∉ (Element.mk "div" [] none (ps.map (paragraphOf r)) none).innerText := by
    rw [Element.innerText, innerTexts_paragraphs hanswer]
    intro hmem
    obtain ⟨p, hp, hmem⟩ := List.mem_flatMap.mp hmem
    exact absurd (isPlain_of_mem_writtenWith (hps p hp).toIsSpelled hmem) Bool.false_ne_true
  have hheadless :
      HeadingIds.isHeadless (.mk "div" [] none (ps.map (paragraphOf r)) none) = true := by
    have hheading : headingTags.contains ("div" : Text) = false := by decide
    rw [HeadingIds.isHeadless, hheading, areHeadless_paragraphs hanswer]
    rfl
  exact parse_of_blocks hunmarked hblocks hinline hbrace rfl hheadless

end ApiSite.Markup
