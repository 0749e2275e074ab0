import ApiSite.Proofs.Markup.Bullets
import ApiSite.Proofs.Markup.Inline.Calm
import ApiSite.Proofs.Markup.Writer

/-!
# Nested bullets are written as they were read

The tree of nested bullets holds nothing that inline markup, attribute lists or heading ids would
change, so it is the document (`parse_bullets`). The writer keeps the widths of the open markers,
two for each level, and ends each line once, whether a list or a word ended it; so each bullet comes
out on the line that it was read from (`writeElement_bullet`), and the document comes out as its
source (`write_parse_bullets`).
-/

set_option autoImplicit false

namespace ApiSite.Markup

open Doc (Word)
open Text (lines unlines)

variable {bs : List Bullet} {x : Char} {level : Nat}

/-! ### The tree -/

theorem mem_listsOf {es : List Element} {e : Element} (he : e ∈ listsOf es) :
    e = .mk "ul" [] none es none := by
  cases es with
  | nil => cases he
  | cons e' es => exact List.mem_singleton.mp he

theorem innerTexts_listsOf (es : List Element) :
    Element.innerTexts (listsOf es) = Element.innerTexts es := by
  cases es with
  | nil => rfl
  | cons e es => simp [listsOf, Element.innerTexts, Element.innerText]

mutual

theorem Bullet.not_mem_innerText (hx : x.isAlpha = false) :
    ∀ b : Bullet, x ∉ Element.innerTexts [b.element]
  | .mk word below => by
    have hword : x ∉ word.letters := Text.not_mem_of_all word.isAlpha hx
    have hbelow := not_mem_innerTexts hx below
    simp [Bullet.element, Element.innerTexts, Element.innerText, innerTexts_listsOf, hword, hbelow]

/-- The texts of bullets are letters. -/
theorem not_mem_innerTexts (hx : x.isAlpha = false) :
    ∀ bs : List Bullet, x ∉ Element.innerTexts (bulletElements bs)
  | [] => List.not_mem_nil
  | b :: bs => by
    have hb := b.not_mem_innerText hx
    have hbs := not_mem_innerTexts hx bs
    rw [bulletElements]
    generalize b.element = e at hb ⊢
    obtain ⟨tag, attrs, text, children, tail⟩ := e
    simp only [Element.innerTexts, List.append_nil, List.mem_append, not_or] at hb ⊢
    exact ⟨hb, hbs⟩

end

variable {resolve? : Option (Text → Option Element)} {es : List Element}

theorem isCalm_listsOf {setting : Inline.Setting}
    (hes : ∀ d ∈ Inline.ofBlocks es, Inline.IsCalm setting d) :
    ∀ e ∈ listsOf es, Inline.IsCalm setting (Inline.ofBlock e) := by
  intro e he
  rw [mem_listsOf he, Inline.ofBlock]
  exact .intro (fun hopen ↦ absurd hopen Bool.false_ne_true) hes

mutual

theorem Bullet.isCalm : ∀ b : Bullet, Inline.IsCalm ⟨[], resolve?⟩ (Inline.ofBlock b.element)
  | .mk word below => by
    have hbelow := isCalm_listsOf (isCalm_bullets below)
    rw [Bullet.element, Inline.ofBlock]
    refine .intro (fun _ ↦ Inline.isStill_letters rfl word.letters_ne_nil word.isAlpha)
      fun d hd ↦ ?_
    obtain ⟨e, he, rfl⟩ := Inline.mem_ofBlocks hd
    exact hbelow e he

/-- No word is markup. -/
theorem isCalm_bullets : ∀ bs : List Bullet,
    ∀ d ∈ Inline.ofBlocks (bulletElements bs), Inline.IsCalm ⟨[], resolve?⟩ d
  | [] => fun d hd ↦ absurd hd List.not_mem_nil
  | b :: bs => by
    intro d hd
    rw [bulletElements, Inline.ofBlocks] at hd
    rcases List.mem_cons.mp hd with rfl | hd
    · exact b.isCalm
    · exact isCalm_bullets bs d hd

end

theorem areHeadless_listsOf (hes : HeadingIds.areHeadless es = true) :
    HeadingIds.areHeadless (listsOf es) = true := by
  refine HeadingIds.areHeadless_iff.mpr fun e he ↦ ?_
  have hheading : headingTags.contains ("ul" : Text) = false := by decide
  rw [mem_listsOf he, HeadingIds.isHeadless, hheading, hes]
  rfl

mutual

theorem Bullet.isHeadless : ∀ b : Bullet, HeadingIds.isHeadless b.element = true
  | .mk word below => by
    have hheading : headingTags.contains ("li" : Text) = false := by decide
    rw [Bullet.element, HeadingIds.isHeadless, hheading,
      areHeadless_listsOf (areHeadless_bullets below)]
    rfl

/-- A list has no headings. -/
theorem areHeadless_bullets : ∀ bs : List Bullet,
    HeadingIds.areHeadless (bulletElements bs) = true
  | [] => rfl
  | b :: bs => by
    rw [bulletElements, HeadingIds.areHeadless, b.isHeadless, areHeadless_bullets bs]
    rfl

end

/-! ### The document -/

theorem isUniform_bulletsText (hbs : bs ≠ []) : IsUniform (bulletsText 0 bs) where
  opening := not_mem_bulletsText rfl
  closing := not_mem_bulletsText rfl
  carriageReturn := not_mem_bulletsText rfl
  tab := not_mem_bulletsText rfl
  line line hline hall := by
    rw [lines_bulletsText hbs] at hline
    obtain ⟨n, w, -, rfl⟩ := exists_of_mem_bulletsLines 0 bs (List.mem_of_mem_tail hline)
    have hdash : '-' ∈ bulletLine n w := List.mem_append_right _ List.mem_cons_self
    exact absurd (List.all_eq_true.mp hall '-' hdash) Bool.false_ne_true

/-- The root of the tree that bullets are read as. -/
def bulletsRoot (bs : List Bullet) : Element :=
  .mk "div" [] none (listsOf (bulletElements bs)) none

/-- **Bullets are read as nested lists of their words**, and no name is asked for. -/
theorem parse_bullets (hbs : bs ≠ []) :
    Document.parse resolve? (bulletsText 0 bs) = ⟨bulletsRoot bs, [], [], true⟩ := by
  have hunmarked : IsUnmarked (bulletsText 0 bs) :=
    { isUniform_bulletsText hbs with
      notBlank := by
        obtain ⟨t, c, htext, hc⟩ := exists_bulletsText_last 0 hbs
        simp [htext, Text.isBlankText, hc]
      fence := fun line hline ↦ opener?_eq_none
        (Block.not_mem_lines (not_mem_bulletsText rfl) hline)
        (Block.not_mem_lines (not_mem_bulletsText rfl) hline)
      angle := not_mem_bulletsText rfl
      ampersand := not_mem_bulletsText rfl }
  have hblocks : Block.parse [] (bulletsText 0 bs ++ ['\n', '\n']) = (bulletsRoot bs, []) := by
    obtain ⟨b, bs, rfl⟩ := List.exists_cons_of_ne_nil hbs
    exact Block.parse_bulletsText hbs
  have hinline : Inline.read ⟨[], resolve?⟩ (bulletsRoot bs) ⟨[], [], 0⟩ =
      (bulletsRoot bs, ⟨[], [], 0⟩) :=
    Inline.read_eq_self (isCalm_listsOf (isCalm_bullets bs))
  have hbrace : '\x7b' ∉ (bulletsRoot bs).innerText := by
    have hinner := not_mem_innerTexts (x := '\x7b') rfl bs
    simp [bulletsRoot, Element.innerText, innerTexts_listsOf, hinner]
  have hheadless : HeadingIds.isHeadless (bulletsRoot bs) = true := by
    have hheading : headingTags.contains ("div" : Text) = false := by decide
    rw [bulletsRoot, HeadingIds.isHeadless, hheading,
      areHeadless_listsOf (areHeadless_bullets bs)]
    rfl
  exact parse_of_blocks hunmarked hblocks hinline hbrace rfl hheadless

/-! ### Writing the tree -/

namespace Writer

variable {style : Style} {rawHtml : List Text} {place : Place} {s : State} {o : Output}

theorem Output.newlines_write_letters (w : Word) : (o.write w.letters).newlines = 0 := by
  obtain ⟨letters, c, hletters, halpha⟩ := w.exists_last
  have hc : c ≠ '\n' := ne_of_isAlpha halpha rfl
  simp [hletters, Output.write, Output.finalNewlines, Text.countStart, hc]

theorem Output.endLine_eq_write (ho : o.newlines = 0) : o.endLine = o.write ['\n'] := by
  rw [Output.endLine, ho]
  rfl

theorem Output.endLine_eq_self (ho : 1 ≤ o.newlines) : o.endLine = o := by
  rw [Output.endLine, if_neg (by omega)]

theorem Output.one_le_newlines_endLine (o : Output) : 1 ≤ o.endLine.newlines := by
  rw [Output.endLine]
  split
  · exact Nat.le_add_left 1 o.newlines
  · omega

/-- The writer is within bullets: no cell and no numbered list is open, and each open marker is a
dash and a space. -/
structure IsAtLevel (level : Nat) (s : State) : Prop where
  cell : s.cell = none
  ordinals : s.ordinals = []
  itemWidths : s.itemWidths = List.replicate level 2

theorem IsAtLevel.indent_eq (hs : IsAtLevel level s) : s.indent = Text.spaces (2 * level) := by
  have htotal (n : Nat) : total (List.replicate n 2) = 2 * n := by
    induction n with
    | zero => rfl
    | succ n ih =>
      rw [List.replicate_succ, total, ih]
      omega
  rw [State.indent, hs.itemWidths, htotal]

/-- The state in which the bullets below one are written: behind its word, one level deeper. -/
def State.behind (w : Word) (s : State) : State :=
  { s with
    output := (s.output.write (s.indent ++ ['-', ' '])).write w.letters
    itemWidths := 2 :: s.itemWidths }

theorem IsAtLevel.behind (hs : IsAtLevel level s) (w : Word) :
    IsAtLevel (level + 1) (s.behind w) :=
  ⟨hs.cell, hs.ordinals, by rw [State.behind, hs.itemWidths]; rfl⟩

theorem IsAtLevel.text_behind (hs : IsAtLevel level s) (w : Word) :
    (s.behind w).output.text = s.output.text ++ bulletLine (2 * level) w := by
  simp [State.behind, hs.indent_eq, bulletLine]

/-- An item is written as its mark, its word and what is below it, and its line is ended. -/
theorem writeElement_item (hs : IsAtLevel level s) {w : Word} {children : List Element}
    (hchildren : writeAll style rawHtml ⟨"li".toList :: place.ancestors, true⟩ children
      (s.behind w) = .ok { s.behind w with output := o }) :
    writeElement style rawHtml place (.mk "li" [] (some w.letters) children none) s =
      .ok { s with output := o.endLine } := by
  have hkind : Kind.of "li" [] = .item := by decide
  have hmarker : nextMarker place s = (['-', ' '], s) := by
    rw [nextMarker.eq_def, hs.ordinals]
    cases place.ancestors.head? <;> rfl
  rw [writeElement, openElement]
  simp only [Element.tag, Element.attrs, hkind, hmarker]
  rw [writeText?_letters w.letters_ne_nil w.isAlpha, State.put_eq_write (by exact hs.cell)]
  have hbehind : State.write w.letters
      { s.write (s.indent ++ ['-', ' ']) with itemWidths := 2 :: s.itemWidths } = s.behind w := rfl
  simp only [List.length_cons, List.length_nil, Nat.zero_add, hbehind, hchildren]
  simp only [closeElement, Element.tag, Element.attrs, hkind]
  rfl

/-- A list within an item begins on a line of its own. -/
theorem writeAll_listsOf {es : List Element} (hplace : place.isInside "li" = true)
    (hs : s.output.newlines = 0)
    (hes : writeAll style rawHtml ⟨"ul".toList :: place.ancestors, true⟩ es
      { s with output := s.output.write ['\n'] } = .ok { s with output := o }) (hne : es ≠ []) :
    writeAll style rawHtml place (listsOf es) s = .ok { s with output := o } := by
  obtain ⟨e, es, rfl⟩ := List.exists_cons_of_ne_nil hne
  have hkind : Kind.of "ul" [] = .bulletList := by decide
  have hstart : startList place s = { s with output := s.output.write ['\n'] } := by
    rw [startList, hplace, if_pos rfl, State.endLine, Output.endLine_eq_write hs]
  have hnone (s : State) : writeText? style rawHtml none s = s := rfl
  rw [listsOf, writeAll, writeElement, openElement]
  simp only [Element.tag, Element.attrs, hkind, hstart, hnone, hes]
  simp only [closeElement, Element.tag, Element.attrs, hkind]
  rw [writeAll]

mutual

theorem writeElement_bullet :
    ∀ (b : Bullet) (level : Nat) (s : State) (place : Place), IsAtLevel level s →
      ∃ o, writeElement style rawHtml place b.element s = .ok { s with output := o } ∧
        o.text = s.output.text ++ (b.lines level).flatMap (· ++ ['\n']) ∧ 1 ≤ o.newlines
  | .mk word below, level, s, place => fun hs ↦ by
    have hzero : (s.behind word).output.newlines = 0 := Output.newlines_write_letters word
    have htext := hs.text_behind word
    cases below with
    | nil =>
      have hnone : writeAll style rawHtml ⟨"li".toList :: place.ancestors, true⟩ []
          (s.behind word) = .ok (s.behind word) := by rw [writeAll]
      refine ⟨_, writeElement_item (o := (s.behind word).output) hs hnone, ?_,
        Output.one_le_newlines_endLine _⟩
      rw [Output.endLine_eq_write hzero, Output.text_write, htext]
      simp [Bullet.lines, bulletsLines]
    | cons c below =>
      have hinside : (⟨"li".toList :: place.ancestors, true⟩ : Place).isInside "li" = true := by
        simp [Place.isInside]
      obtain ⟨o, hwrite, ho, hlines⟩ := writeAll_bullets (c :: below) (level + 1)
        { s.behind word with output := (s.behind word).output.write ['\n'] }
        ⟨"ul".toList :: "li".toList :: place.ancestors, true⟩
        ⟨(hs.behind word).cell, (hs.behind word).ordinals, (hs.behind word).itemWidths⟩
      have hpos := hlines (List.cons_ne_nil c below)
      have hlists := writeAll_listsOf hinside hzero hwrite (by simp [bulletElements])
      refine ⟨_, writeElement_item hs hlists, ?_, Output.one_le_newlines_endLine _⟩
      rw [Output.endLine_eq_self hpos, ho, Output.text_write, htext, Bullet.lines]
      simp

/-- **Bullets are written on the lines that they have in a source.** -/
theorem writeAll_bullets :
    ∀ (bs : List Bullet) (level : Nat) (s : State) (place : Place), IsAtLevel level s →
      ∃ o, writeAll style rawHtml place (bulletElements bs) s = .ok { s with output := o } ∧
        o.text = s.output.text ++ (bulletsLines level bs).flatMap (· ++ ['\n']) ∧
        (bs ≠ [] → 1 ≤ o.newlines)
  | [], level, s, place => fun hs ↦
    ⟨s.output, by rw [bulletElements, writeAll], by simp [bulletsLines], fun h ↦ absurd rfl h⟩
  | b :: bs, level, s, place => fun hs ↦ by
    obtain ⟨o, hb, ho, hpos⟩ := writeElement_bullet b level s place hs
    obtain ⟨o', hbs, ho', hpos'⟩ := writeAll_bullets bs level { s with output := o }
      ⟨place.ancestors, place.ancestors.isEmpty⟩ ⟨hs.cell, hs.ordinals, hs.itemWidths⟩
    have helement : ∃ attrs text children, b.element = .mk "li" attrs text children none := by
      cases b
      exact ⟨_, _, _, rfl⟩
    obtain ⟨attrs, text, children, helement⟩ := helement
    refine ⟨o', ?_, ?_, fun _ ↦ ?_⟩
    · rw [helement] at hb
      rw [bulletElements, helement, writeAll, hb]
      exact hbs
    · rw [ho', ho, bulletsLines]
      simp
    · cases bs with
      | nil =>
        rw [bulletElements, writeAll] at hbs
        obtain rfl : o = o' := by simpa using hbs
        exact hpos
      | cons c bs => exact hpos' (List.cons_ne_nil c bs)

end

/-- A document of bullets is written as their lines. -/
theorem write_bullets (hbs : bs ≠ []) :
    write style (bulletsRoot bs) rawHtml = .ok (bulletsText 0 bs) := by
  obtain ⟨o, hwrite, ho, -⟩ :
      ∃ o, writeAll style rawHtml ⟨["ul"], true⟩ (bulletElements bs) {} = .ok { output := o } ∧
        o.text = (bulletsLines 0 bs).flatMap (· ++ ['\n']) ∧ (bs ≠ [] → 1 ≤ o.newlines) :=
    writeAll_bullets bs 0 {} ⟨["ul"], true⟩ ⟨rfl, rfl, rfl⟩
  have hkind : Kind.of "ul" [] = .bulletList := by decide
  have hnone (s : State) : writeText? style rawHtml none s = s := rfl
  have hstart : startList ⟨[], true⟩ {} = {} := rfl
  have hlist : writeAll style rawHtml ⟨[], true⟩ [.mk "ul" [] none (bulletElements bs) none] {} =
      .ok { output := o } := by
    rw [writeAll, writeElement, openElement]
    simp only [Element.tag, Element.attrs, hkind, hstart, hnone, hwrite]
    simp only [closeElement, Element.tag, Element.attrs, hkind]
    rw [writeAll]
  have hroot : listsOf (bulletElements bs) = [.mk "ul" [] none (bulletElements bs) none] := by
    obtain ⟨b, bs, rfl⟩ := List.exists_cons_of_ne_nil hbs
    rfl
  have hstrip : Text.stripEnd o.text = bulletsText 0 bs := by
    obtain ⟨t, c, hlast, hblank⟩ := exists_bulletsText_last 0 hbs
    have htext : o.text = bulletsText 0 bs ++ ['\n'] := by
      rw [ho, bulletsText, unlines, Text.join_append_sep (bulletsLines_ne_nil hbs)]
    rw [htext, Text.stripEnd, Text.trimEnd_concat_of_true rfl, hlast,
      Text.trimEnd_concat_of_false hblank]
  rw [write, bulletsRoot]
  simp only [Element.children, Element.text, hnone, hroot, hlist, Except.map, hstrip]

end Writer

/-- **Nested bullets survive being read and written**: the document of a forest of bullets holds
their lists, each in the item that it stands under, it is written as its source, and no name in it
is asked for. -/
theorem write_parse_bullets (style : Writer.Style) (resolve? : Option (Text → Option Element))
    (hbs : bs ≠ []) :
    let d := Document.parse resolve? (bulletsText 0 bs)
    d.root = bulletsRoot bs ∧ Writer.write style d.root d.rawHtml = .ok (bulletsText 0 bs) ∧
      d.names = [] ∧ d.isSound = true := by
  rw [parse_bullets hbs]
  exact ⟨rfl, Writer.write_bullets hbs, rfl, rfl⟩

/-- Bullets of which the last one stands two levels above the one before it. -/
def fruitBullets : List Bullet :=
  [.mk fruit [.mk pear [], .mk apple [.mk gala []]], .mk nut []]
where
  fruit : Word := ⟨"fruit", by decide, List.all_eq_true.mp rfl⟩
  pear : Word := ⟨"pear", by decide, List.all_eq_true.mp rfl⟩
  apple : Word := ⟨"apple", by decide, List.all_eq_true.mp rfl⟩
  gala : Word := ⟨"Gala", by decide, List.all_eq_true.mp rfl⟩
  nut : Word := ⟨"nut", by decide, List.all_eq_true.mp rfl⟩

theorem write_parse_bullets_fruit :
    fruitBullets ≠ [] ∧ bulletsText 0 fruitBullets =
        "- fruit\n  - pear\n  - apple\n    - Gala\n- nut".toList ∧
      let d := Document.parse none (bulletsText 0 fruitBullets)
      d.root = bulletsRoot fruitBullets ∧
        Writer.write ⟨[], "dart"⟩ d.root d.rawHtml = .ok (bulletsText 0 fruitBullets) ∧
        d.names = [] ∧ d.isSound = true :=
  have hne : fruitBullets ≠ [] := List.cons_ne_nil _ _
  ⟨hne, by decide, write_parse_bullets _ _ hne⟩

end ApiSite.Markup
