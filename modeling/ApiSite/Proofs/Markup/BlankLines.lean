import ApiSite.Proofs.Markup.Alerts

/-!
# Line feeds that are counted, and blank lines

The output counts the line feeds at its end instead of looking for them. That the count is right is
kept by a single write (`Output.IsSound.write`), and a page comes about by nothing but writes
(`Output.Grows.exists_writes`), so the count is right after each of them, in every tree and also
where the tree cannot be written to its end.

Blocks rest on the count: before a heading, a rule, a quotation, an alert, a block of code and a
list outside of items, a blank line is left by writing the line feeds that are missing. So what
these begin with, which `openingMark?` names, stands at the beginning of the page or behind a blank
line (`blocks_behind_blankLines`). A list within an item only ends the line, even if the item stands
in no list itself (`not_behind_blankLine_in_item`).
-/

set_option autoImplicit false

namespace ApiSite.Markup.Writer

variable {style : Style} {rawHtml : List Text} {place : Place} {s t : State} {u mark : Text}
  {e : Element} {o o' : Output} {c : Cursor} {root : Element}

/-! ### Writes -/

namespace Output

/-- Writes pieces one after the other. -/
def writeEach (pieces : List Text) (o : Output) : Output := pieces.foldl (fun o t ↦ o.write t) o

theorem text_writeEach (pieces : List Text) (o : Output) :
    (o.writeEach pieces).text = o.text ++ pieces.flatten := by
  induction pieces generalizing o with
  | nil => exact (List.append_nil _).symm
  | cons t pieces ih =>
    rw [writeEach, List.foldl_cons, List.flatten_cons, ← List.append_assoc, ← text_write]
    exact ih (o.write t)

theorem grows_writeEach (pieces : List Text) (o : Output) : o.Grows (o.writeEach pieces) := by
  induction pieces generalizing o with
  | nil => exact .refl
  | cons t pieces ih => exact (Grows.write .refl t).trans (ih (o.write t))

/-- An output that comes from another one comes from it by some writes. -/
theorem Grows.exists_writes (h : o.Grows o') : ∃ pieces, o' = o.writeEach pieces := by
  induction h with
  | refl => exact ⟨[], rfl⟩
  | write _ t ih =>
    obtain ⟨pieces, rfl⟩ := ih
    exact ⟨pieces ++ [t], by simp only [writeEach, List.foldl_append,
      List.foldl_cons, List.foldl_nil]⟩

theorem isSound_empty : ({} : Output).IsSound := rfl

/-- After each of the writes that an output comes from, the line feeds at the end of what has been
written are counted. -/
theorem newlines_writeEach (pieces : List Text) :
    (({} : Output).writeEach pieces).newlines = finalNewlines pieces.flatten := by
  have hsound := (grows_writeEach pieces {}).isSound isSound_empty
  rwa [IsSound, text_writeEach] at hsound

end Output

/-! ### Blank lines -/

/-- What is written next begins the page, or stands behind a blank line. -/
def AtBlankLine (t : Text) : Prop := t = [] ∨ ['\n', '\n'] <:+ t

theorem atBlankLine_of_finalNewlines (h : 2 ≤ Output.finalNewlines u) : AtBlankLine u := by
  refine .inr (List.reverse_prefix.mp ?_)
  rw [Output.finalNewlines, Text.countStart] at h
  rcases hreverse : u.reverse with _ | ⟨a, _ | ⟨b, rest⟩⟩ <;> rw [hreverse] at h
  · exact absurd h (by decide)
  · by_cases ha : a = '\n' <;> simp [ha] at h
  · by_cases ha : a = '\n'
    · by_cases hb : b = '\n'
      · rw [ha, hb]
        exact List.prefix_append ['\n', '\n'] rest
      · simp [ha, hb] at h
    · simp [ha] at h

/-- Where a blank line is left, one is there. -/
theorem Output.IsSound.atBlankLine (h : o.IsSound) : AtBlankLine o.blankLine.text := by
  rw [blankLine]
  split_ifs with hempty
  · rw [Output.text, List.isEmpty_iff.mp hempty]
    exact .inl rfl
  · refine atBlankLine_of_finalNewlines ?_
    rw [text_write, finalNewlines_append_replicate, ← h]
    omega

/-! ### Blocks -/

/-- What an element begins with that is set off by a blank line: a heading, a rule, a quotation, an
alert, a block of code, and a list outside of items, which begins with what it holds. -/
def openingMark? (style : Style) (place : Place) (e : Element) (s : State) : Option Text :=
  match Kind.of e.tag e.attrs with
  | .heading level => some (List.replicate level '#' ++ " ")
  | .rule => some "---"
  | .quotation => some (Text.times (s.quoteDepth + 1) "> ")
  | .alert => some (openingLine e)
  | .preformatted =>
    (soleCode? e.children).map fun code =>
      s.indent ++ "\x60\x60\x60" ++ languageOf style code.attrs
  | .bulletList | .numberedList => if place.isInside "li" then none else some []
  | _ => none

theorem exists_text_writeFence (language code : Text) (s : State) :
    ∃ rest, (writeFence language code s).output.text =
      s.output.text ++ (s.indent ++ "\x60\x60\x60" ++ language ++ rest) := by
  simp only [writeFence, State.write, Output.text_write, List.append_assoc]
  exact ⟨_, rfl⟩

/-- Such an element is opened by leaving a blank line and writing what it begins with; where this is
what it holds, nothing else is written yet. -/
theorem openElement_mark {flag : Bool} (hmark : openingMark? style place e s = some mark)
    (hopen : openElement style place e s = .ok (t, flag)) :
    ∃ rest, t.output.text = s.output.blankLine.text ++ (mark ++ rest) ∧ (mark = [] → rest = []) := by
  rw [openingMark?] at hmark
  cases hkind : Kind.of e.tag e.attrs <;> simp only [hkind] at hmark <;>
    simp only [openElement, hkind] at hopen
  case heading level =>
    cases hmark
    cases hopen
    exact ⟨[], by simp [State.write, State.blankLine], fun _ ↦ rfl⟩
  case rule =>
    cases hmark
    cases hopen
    exact ⟨[], by simp [State.write, State.blankLine], fun _ ↦ rfl⟩
  case quotation =>
    cases hmark
    cases hopen
    exact ⟨[], by simp [State.write, State.blankLine, State.quoteMarks], fun _ ↦ rfl⟩
  case alert =>
    cases hmark
    cases hopen
    exact ⟨['\n'], by simp [State.write, State.blankLine, openingLine],
      fun hnil ↦ by simp [openingLine] at hnil⟩
  case preformatted =>
    obtain ⟨code, hcode, rfl⟩ := Option.map_eq_some_iff.mp hmark
    rw [hcode] at hopen
    cases hopen
    obtain ⟨rest, hrest⟩ := exists_text_writeFence (languageOf style code.attrs)
      (Inline.Rule.unescapeCode code.innerText) s.blankLine
    exact ⟨rest, hrest, fun hnil ↦ by simp at hnil⟩
  case bulletList =>
    obtain ⟨hplace, hmark⟩ := Option.ite_none_left_eq_some.mp hmark
    cases hmark
    cases hopen
    exact ⟨[], by rw [startList, if_neg hplace, State.blankLine]; simp, fun _ ↦ rfl⟩
  case numberedList =>
    obtain ⟨hplace, hmark⟩ := Option.ite_none_left_eq_some.mp hmark
    cases hmark
    cases hfirst : beforeFirst e.attrs <;> rw [hfirst] at hopen <;> cases hopen
    exact ⟨[], by rw [startList, if_neg hplace, State.blankLine]; simp, fun _ ↦ rfl⟩
  all_goals cases hmark

/-! ### The page -/

/-- Elements in a row are written when the walk is behind the last of them. -/
theorem reaches_of_writeAll {around : List Stop} {before es : List Element} {s' : State}
    (h : writeAll style rawHtml place es s = .ok s') :
    ∃ c, Reaches style rawHtml ⟨⟨around, before, es⟩, place, s⟩ c ∧
      c.position = ⟨around, before ++ es, []⟩ ∧ c.state = s' := by
  induction es generalizing place s before with
  | nil =>
    rw [writeAll, Except.ok.injEq] at h
    exact ⟨_, .refl, by rw [List.append_nil], h⟩
  | cons e es ih =>
    obtain ⟨t, hone, hrest⟩ := writeAll_cons_eq_ok_iff.mp h
    obtain ⟨c, hreach, hposition, hstate⟩ := @ih place.behind (writeText? style rawHtml e.tail t)
      (before ++ [e]) hrest
    exact ⟨c, hreach.head (.past hone), by rw [hposition, List.append_assoc]; rfl, hstate⟩

/-- What has been written at a cursor has come about by writes. -/
theorem Reaches.grows_from_empty (h : Reaches style rawHtml (start style rawHtml root) c) :
    ({} : Output).Grows c.state.output :=
  (keeps_writeText? root.text {}).output.trans h.grows

/-- What has been written once an element is opened stands at the beginning of what has been when
it is closed. -/
theorem grows_of_openElement {flag : Bool} (hopen : openElement style place e s = .ok (t, flag))
    {s' : State} (hwrite : writeElement style rawHtml place e s = .ok s') :
    t.output.Grows s'.output := by
  rcases writeElement_eq_ok_iff.mp hwrite with hclosed | ⟨u, u', hopen', hinside, rfl⟩
  · rw [hopen] at hclosed
    cases hclosed
    exact .refl
  · rw [hopen] at hopen'
    cases hopen'
    exact (keeps_writeText? e.text t).output.trans
      ((grows_writeAll hinside).trans (grows_closeElement place e u'))

/-- What has been written once an element is opened stands at the beginning of the page. -/
theorem Reaches.prefix_page {ahead : List Element} {flag : Bool} {out : Text}
    (h : Reaches style rawHtml (start style rawHtml root) c)
    (hahead : c.position.ahead = e :: ahead)
    (hopen : openElement style c.place e c.state = .ok (t, flag))
    (hwrite : write style root rawHtml = .ok out) :
    ∃ page, out = Text.stripEnd page ∧ t.output.text <+: page := by
  obtain ⟨final, hfinal, hout⟩ := write_eq_ok_iff.mp hwrite
  obtain ⟨s, hwrites, hgrows⟩ := h.writes hfinal
  rw [Cursor.Writes, hahead] at hwrites
  obtain ⟨s', hone, hrest⟩ := writeAll_cons_eq_ok_iff.mp hwrites
  have hbehind := (keeps_writeText? e.tail s').output.trans (grows_writeAll hrest)
  exact ⟨final.output.text, hout.symm,
    ((grows_of_openElement hopen hone).trans (hbehind.trans hgrows)).isPrefix⟩

/-- **Blocks stand behind blank lines, because the line feeds are counted.** For every tree, and
wherever the walk over it gets: what has been written there has come about by writes, and after each
of them the count is that of the line feeds at the end of all that has been written; a page that is
finished is what has been written when the walk has passed all. So where the walk comes to an
element that is set off by a blank line, what has been written is brought to the beginning of the
page or to a blank line, and just there stands what the element begins with, also on the finished
page. -/
theorem blocks_behind_blankLines (style : Style) (rawHtml : List Text) (root : Element) :
    (∀ c, Reaches style rawHtml (start style rawHtml root) c →
      ∃ pieces, c.state.output = ({} : Output).writeEach pieces ∧
        ∀ k, (({} : Output).writeEach (pieces.take k)).newlines =
          Output.finalNewlines (pieces.take k).flatten) ∧
    (∀ out, write style root rawHtml = .ok out →
      ∃ c, Reaches style rawHtml (start style rawHtml root) c ∧
        c.position = ⟨[], root.children, []⟩ ∧ out = Text.stripEnd c.state.output.text) ∧
    ∀ c e ahead t flag mark, Reaches style rawHtml (start style rawHtml root) c →
      c.position.ahead = e :: ahead → openElement style c.place e c.state = .ok (t, flag) →
      openingMark? style c.place e c.state = some mark →
        AtBlankLine c.state.output.blankLine.text ∧
        (∃ rest, t.output.text = c.state.output.blankLine.text ++ (mark ++ rest) ∧
          (mark = [] → rest = [])) ∧
        ∀ out, write style root rawHtml = .ok out →
          ∃ page, out = Text.stripEnd page ∧ t.output.text <+: page := by
  refine ⟨fun c hreach ↦ ?_, fun out hwrite ↦ ?_, ?_⟩
  · obtain ⟨pieces, hpieces⟩ := hreach.grows_from_empty.exists_writes
    exact ⟨pieces, hpieces, fun k ↦ Output.newlines_writeEach _⟩
  · obtain ⟨final, hfinal, hout⟩ := write_eq_ok_iff.mp hwrite
    obtain ⟨c, hreach, hposition, hstate⟩ := reaches_of_writeAll hfinal
    exact ⟨c, hreach, hposition, by rw [hstate, hout]⟩
  · intro c e ahead t flag mark hreach hahead hopen hmark
    have hsound := hreach.grows_from_empty.isSound Output.isSound_empty
    exact ⟨hsound.atBlankLine, openElement_mark hmark hopen,
      fun out ↦ hreach.prefix_page hahead hopen⟩

def fruitHeading : Element := .mk "h1" [] (some "Fruit") [] none

def fruitList : Element := .mk "ul" [] none [.mk "li" [] (some "apple") [] none] none

/-- A heading with a list under it. -/
def fruitPage : Element := .mk "div" [] none [fruitHeading, fruitList] none

/-- The heading begins the page, and the list stands behind the blank line under it. -/
theorem blocks_behind_blankLines_fruit :
    let style : Style := ⟨[], "dart"⟩
    write style fruitPage [] = .ok "# Fruit\n\n- apple".toList ∧
      (∃ c t, Reaches style [] (start style [] fruitPage) c ∧
        c.position.ahead = [fruitHeading, fruitList] ∧
        openElement style c.place fruitHeading c.state = .ok (t, true) ∧
        openingMark? style c.place fruitHeading c.state = some "# ".toList ∧
        AtBlankLine c.state.output.blankLine.text ∧ t.output.text = "# ".toList ∧
        ∃ page, "# Fruit\n\n- apple".toList = Text.stripEnd page ∧ t.output.text <+: page) ∧
      ∃ c t, Reaches style [] (start style [] fruitPage) c ∧ c.position.ahead = [fruitList] ∧
        openElement style c.place fruitList c.state = .ok (t, true) ∧
        openingMark? style c.place fruitList c.state = some [] ∧
        AtBlankLine c.state.output.blankLine.text ∧ t.output.text = "# Fruit\n\n".toList ∧
        ∃ page, "# Fruit\n\n- apple".toList = Text.stripEnd page ∧ t.output.text <+: page := by
  intro style
  obtain ⟨-, -, hblocks⟩ := blocks_behind_blankLines style [] fruitPage
  have hwrite : write style fruitPage [] = .ok "# Fruit\n\n- apple".toList := by decide +kernel
  have hheading : Reaches style [] (start style [] fruitPage) (start style [] fruitPage) := .refl
  have hlist := hheading.tail (.past rfl)
  refine ⟨hwrite, ⟨_, _, hheading, rfl, rfl, rfl, ?_⟩, _, _, hlist, rfl, rfl, rfl, ?_⟩
  · obtain ⟨hblank, -, hpage⟩ := hblocks _ _ _ _ _ _ hheading rfl rfl rfl
    exact ⟨hblank, rfl, hpage _ hwrite⟩
  · obtain ⟨hblank, ⟨rest, htext, hrest⟩, hpage⟩ := hblocks _ _ _ _ _ _ hlist rfl rfl rfl
    exact ⟨hblank, by rw [htext, hrest rfl]; rfl, hpage _ hwrite⟩

/-- A list in an item that stands in no list. -/
def looseItem : Element :=
  .mk "div" [] none [.mk "li" [] none [.mk "ul" [] none [.mk "li" [] (some "x") [] none] none] none]
    none

/-- No list is around the list in such an item, and only a line is ended before it. -/
theorem not_behind_blankLine_in_item :
    let style : Style := ⟨[], "dart"⟩
    write style looseItem [] = .ok ("- \n  - x" : Text) ∧
      ∃ c e ahead t, Reaches style [] (start style [] looseItem) c ∧
        c.position.ahead = e :: ahead ∧ Kind.of e.tag e.attrs = .bulletList ∧
        c.place.isInside "ul" = false ∧ c.place.isInside "ol" = false ∧
        openElement style c.place e c.state = .ok (t, true) ∧ ¬AtBlankLine t.output.text := by
  intro style
  refine ⟨by decide +kernel, _, _, [], _, .tail .refl (.inside rfl), rfl, rfl, rfl, rfl, rfl, ?_⟩
  rintro (hnil | hsuffix)
  · exact absurd hnil (by decide)
  · exact absurd hsuffix (by decide)

end ApiSite.Markup.Writer
