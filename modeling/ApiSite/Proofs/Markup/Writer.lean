import ApiSite.Markup.Writer
import ApiSite.Proofs.Markup.Document

/-!
# Writing running text

A document of paragraphs is written as the texts that these are written as, with a blank line
between two of them (`write_of_isWritten`). A running text whose names have been answered is written
with each answer in the place of its name (`isWritten_answers`, `write_paragraphs`).
-/

set_option autoImplicit false

namespace ApiSite.Markup.Writer

open Inline (answers given lead paragraphOf)

variable {as : List Atom} {ps : List (List Atom)} {r : Text → Element} {f : Text → Text}
  {style : Style} {rawHtml : List Text} {place : Place} {s : State} {t letters out : Text}
  {o : Output}

/-! ### Output -/

@[simp]
theorem Output.text_write : (o.write t).text = o.text ++ t := by
  cases t with
  | nil => simp [Output.write]
  | cons c t => simp [Output.write, Output.text]

theorem Output.newlines_write_blankLine : 2 ≤ (o.write ['\n', '\n']).newlines := by
  simp [Output.write]

/-- A blank line is there where nothing has been written, and where one has been. -/
theorem Output.blankLine_eq_self (ho : o.pieces = [] ∨ 2 ≤ o.newlines) : o.blankLine = o := by
  rcases ho with ho | ho
  · simp [Output.blankLine, ho]
  · have hmissing : 2 - o.newlines = 0 := by omega
    simp [Output.blankLine, hmissing, Output.write]

theorem State.put_eq_write (hcell : s.cell = none) : s.put t = s.write t := by
  rw [State.put, hcell]

/-! ### Texts -/

theorem escape_eq_self {safe : List Text} (hbracket : '<' ∉ t) (htick : '\x60' ∉ t) :
    AngleBrackets.escape safe t = t := by
  have hfrom (safe : List Text) (previous : Option Char) :
      AngleBrackets.escapeFrom safe .plain previous t = t := by
    induction t generalizing previous with
    | nil => rfl
    | cons c t ih =>
      have hc : c ≠ '<' := fun heq ↦ hbracket (heq ▸ List.mem_cons_self)
      have hc' : c ≠ '\x60' := fun heq ↦ htick (heq ▸ List.mem_cons_self)
      simp only [AngleBrackets.escapeFrom, hc, hc', if_false]
      rw [ih (mt (List.mem_cons_of_mem _) hbracket) (mt (List.mem_cons_of_mem _) htick)]
  exact hfrom _ none

theorem plainText_eq_self {inLink : Bool} (hbracket : '<' ∉ t) (htick : '\x60' ∉ t)
    (hmark : Mark.opening ∉ t) : plainText style rawHtml inLink t = t := by
  cases inLink with
  | true =>
    rw [plainText, if_pos rfl, Mark.substitute_eq_self hmark, Mark.restoreBackslashes,
      Mark.substitute_eq_self hmark]
  | false =>
    rw [plainText, if_neg Bool.false_ne_true, Mark.substitute_eq_self hmark,
      escape_eq_self hbracket htick, Mark.restoreBackslashes, Mark.substitute_eq_self hmark]

theorem State.put_nil : s.put [] = s := by
  cases hcell : s.cell with
  | none => rw [State.put_eq_write hcell, State.write, Output.write, List.isEmpty_nil, if_pos rfl]
  | some cell =>
    rw [State.put, hcell]
    simp only [List.append_nil, ← hcell]

theorem writeText?_given (hbracket : '<' ∉ t) (htick : '\x60' ∉ t) (hmark : Mark.opening ∉ t) :
    writeText? style rawHtml (given t) s = s.put t := by
  cases t with
  | nil => exact State.put_nil.symm
  | cons c t =>
    have hgiven : given (c :: t) = some (c :: t) := rfl
    rw [hgiven, writeText?, writeText, plainText_eq_self hbracket htick hmark]
    exact fun h ↦ nomatch h

theorem writeText?_letters (hne : letters ≠ []) (hletters : ∀ c ∈ letters, c.isAlpha = true) :
    writeText? style rawHtml (some letters) s = s.put letters := by
  have hno {x : Char} (hx : x.isAlpha = false) : x ∉ letters := Text.not_mem_of_all hletters hx
  obtain ⟨c, t, rfl⟩ := List.exists_cons_of_ne_nil hne
  exact writeText?_given (hno rfl) (hno rfl) (hno rfl)

/-! ### Answers -/

/-- How the answer to a name is written: as code, or as a link whose target needs no escape. -/
inductive Shows (letters : Text) : Element → Text → Prop
  | code : Shows letters (.ofText "code" letters) ('\x60' :: letters ++ ['\x60'])
  | link (href : Text) (hspace : ' ' ∉ href) (hparen : ')' ∉ href) (hmark : Mark.opening ∉ href) :
    Shows letters (.mk "a" [("href", some href)] (some letters) [] none)
      ('[' :: letters ++ "](" ++ href ++ ")")

theorem Shows.isAnswer {e : Element} (h : Shows letters e out) : IsAnswer letters e := by
  cases h with
  | code => exact ⟨_, _, rfl, by decide⟩
  | link href => exact ⟨_, _, rfl, by decide⟩

/-- Code without backticks is written between single ones. -/
theorem writeElement_code (hletters : ∀ c ∈ letters, c.isAlpha = true) (hcell : s.cell = none)
    (style : Style) (rawHtml : List Text) (place : Place) (tail : Option Text) :
    writeElement style rawHtml place (.mk "code" [] (some letters) [] tail) s =
      .ok (s.write ('\x60' :: letters ++ ['\x60'])) := by
  have hno {x : Char} (hx : x.isAlpha = false) : x ∉ letters :=
    Text.not_mem_of_all hletters hx
  have hkind : Kind.of "code" [] = .code := by decide
  have hinner : (Element.mk "code" [] (some letters) [] tail).innerText = letters := by
    simp [Element.innerText, Element.innerTexts]
  have hspan : codeSpan letters = '\x60' :: letters ++ ['\x60'] := by
    have hcontains : letters.contains '\x60' = false := by simpa using hno (x := '\x60') rfl
    rw [codeSpan, hcontains, if_neg Bool.false_ne_true]
  rw [writeElement, openElement]
  simp only [Element.tag, Element.attrs, hkind, hinner, Inline.unescapeCode_eq_self (hno rfl),
    hspan, State.put_eq_write hcell]

/-- A link outside of other links is written with its target as it stands. -/
theorem writeElement_link {href : Text} (hspace : ' ' ∉ href) (hparen : ')' ∉ href)
    (hmark : Mark.opening ∉ href) (hletters : ∀ c ∈ letters, c.isAlpha = true)
    (hne : letters ≠ []) (hcell : s.cell = none) (hlink : s.inLink = false) (style : Style)
    (rawHtml : List Text) (place : Place) (tail : Option Text) :
    writeElement style rawHtml place (.mk "a" [("href", some href)] (some letters) [] tail) s =
      .ok (((s.write ['[']).write letters).write ("](" ++ href ++ ")")) := by
  have hno {x : Char} (hx : x.isAlpha = false) : x ∉ letters :=
    Text.not_mem_of_all hletters hx
  have hkind : Kind.of "a" [("href", some href)] = .link := rfl
  have htarget : targetText href = href := by
    have hspace : href.contains ' ' = false := by simpa using hspace
    have hparen : href.contains ')' = false := by simpa using hparen
    rw [targetText, hspace, hparen, Bool.or_self, if_neg Bool.false_ne_true]
  have hvalue : attrText [("href", some href)] "href" = href := by
    have hlookup : Element.lookup [("href", some href)] "href" = some href := rfl
    rw [attrText, hlookup, Option.getD_some, Mark.restoreEscapes, Mark.substitute_eq_self hmark]
  have htitle : titleText [("href", some href)] = [] := rfl
  rw [writeElement, openElement]
  simp only [Element.tag, Element.attrs, hkind]
  rw [State.put_eq_write (by exact hcell), writeText?_letters hne hletters,
    State.put_eq_write (by exact hcell), writeAll]
  simp only [closeElement, Element.tag, Element.attrs, hkind, htarget, hvalue, htitle]
  rw [State.put_eq_write (by exact hcell)]
  simp only [State.write, List.append_nil]
  -- the state is as before but for its output once the link is closed
  cases s
  simp only at hlink
  subst hlink
  rfl

theorem writeElement_shows {e : Element} (h : Shows letters e out)
    (hletters : ∀ c ∈ letters, c.isAlpha = true) (hne : letters ≠ []) (hcell : s.cell = none)
    (hlink : s.inLink = false) (style : Style) (rawHtml : List Text) (place : Place)
    (tail : Option Text) :
    ∃ o, writeElement style rawHtml place (e.setTail tail) s = .ok { s with output := o } ∧
      o.text = s.output.text ++ out := by
  cases h with
  | code =>
    exact ⟨s.output.write ('\x60' :: letters ++ ['\x60']),
      writeElement_code hletters hcell style rawHtml place tail, Output.text_write⟩
  | link href hspace hparen hmark =>
    exact ⟨((s.output.write ['[']).write letters).write ("](" ++ href ++ ")"),
      writeElement_link hspace hparen hmark hletters hne hcell hlink style rawHtml place tail,
      by simp⟩

theorem Shows.exists_last {e : Element} (h : Shows letters e out) :
    ∃ t c, out = t ++ [c] ∧ Text.isBlank c = false := by
  cases h with
  | code => exact ⟨_, '\x60', rfl, rfl⟩
  | link href => exact ⟨_, ')', rfl, rfl⟩

/-- What is written from the first name on. -/
def behind (f : Text → Text) : List Atom → Text
  | [] => []
  | .char _ :: as => behind f as
  | .name letters :: as => f letters ++ (lead as ++ behind f as)

theorem lead_append_behind : lead as ++ behind f as = writtenWith f as := by
  induction as with
  | nil => rfl
  | cons a as ih =>
    cases a with
    | char c => exact congrArg (c :: ·) ih
    | name letters =>
      rw [behind, ih]
      rfl

theorem not_mem_lead (has : IsSpelled as) {x : Char} (hx : isPlain x = false) : x ∉ lead as := by
  have hsource : x ∉ writtenWith id as :=
    Text.not_mem_of_all (fun _ ↦ isPlain_of_mem_writtenWith has) hx
  rw [← lead_append_behind] at hsource
  exact fun hmem ↦ hsource (List.mem_append_left _ hmem)

theorem writeAll_answers (has : IsSpelled as)
    (hshows : ∀ letters ∈ namesOf as, Shows letters (r letters) (f letters))
    (hcell : s.cell = none) (hlink : s.inLink = false) (style : Style) (rawHtml : List Text)
    (place : Place) :
    ∃ o, writeAll style rawHtml place (answers r as) s = .ok { s with output := o } ∧
      o.text = s.output.text ++ behind f as := by
  induction as generalizing s place with
  | nil => exact ⟨s.output, rfl, (List.append_nil _).symm⟩
  | cons a as ih =>
    have hspelled := has.of_cons
    cases a with
    | char c => exact ih hspelled hshows hcell hlink place
    | name letters =>
      obtain ⟨hne, hletters⟩ := has.name List.mem_cons_self
      have hhere := hshows letters List.mem_cons_self
      obtain ⟨tag, attrs, hr, -⟩ := hhere.isAnswer
      obtain ⟨o, hwrite, ho⟩ := writeElement_shows hhere hletters hne hcell hlink style rawHtml
        place (given (lead as))
      have htail : writeText? style rawHtml (given (lead as)) { s with output := o } =
          { s with output := o.write (lead as) } := by
        rw [writeText?_given (not_mem_lead hspelled rfl) (not_mem_lead hspelled rfl)
          (not_mem_lead hspelled rfl), State.put_eq_write (by exact hcell)]
        rfl
      obtain ⟨o', hrest, ho'⟩ := @ih { s with output := o.write (lead as) } hspelled
        (fun l hl ↦ hshows l (List.mem_cons_of_mem _ hl)) hcell hlink
        ⟨place.ancestors, place.ancestors.isEmpty⟩
      refine ⟨o', ?_, ?_⟩
      · have hset : (r letters).setTail (given (lead as)) =
            .mk tag attrs (some letters) [] (given (lead as)) := by rw [hr]; rfl
        rw [hset] at hwrite
        rw [answers, hset, writeAll, hwrite]
        simp only [htail, hrest]
      · simp [ho', ho, behind]

/-! ### Paragraphs -/

/-- The inside of a paragraph is written as a text that ends with no blank. -/
structure IsWritten (style : Style) (rawHtml : List Text) (text : Option Text)
    (children : List Element) (out : Text) : Prop where
  inside : ∀ (place : Place) (s : State), s.cell = none → s.inLink = false →
    ∃ o, writeAll style rawHtml place children (writeText? style rawHtml text s) =
      .ok { s with output := o } ∧ o.text = s.output.text ++ out
  last : ∃ t c, out = t ++ [c] ∧ Text.isBlank c = false

/-- A text alone is written as it is read as plain text. -/
theorem isWritten_text (ht : t ≠ []) (hplain : plainText style rawHtml false t = out)
    (hlast : ∃ t c, out = t ++ [c] ∧ Text.isBlank c = false) :
    IsWritten style rawHtml (some t) [] out where
  inside place s hcell hlink := by
    obtain ⟨c, t, rfl⟩ := List.exists_cons_of_ne_nil ht
    have htext : writeText? style rawHtml (some (c :: t)) s = s.write out := by
      rw [writeText?, writeText, hlink, hplain, State.put_eq_write hcell]
      exact fun h ↦ nomatch h
    refine ⟨s.output.write out, ?_, Output.text_write⟩
    rw [htext, writeAll]
    rfl
  last := hlast

/-- A paragraph is written with a blank line behind it. -/
theorem writeElement_paragraph {text : Option Text} {children : List Element}
    (h : IsWritten style rawHtml text children out) (hplace : place.ancestors = [])
    (hcell : s.cell = none) (hlink : s.inLink = false) (halert : s.inAlert = false)
    (hready : s.output.pieces = [] ∨ 2 ≤ s.output.newlines) :
    ∃ o, writeElement style rawHtml place (.mk "p" [] text children none) s =
        .ok { s with output := o } ∧
      o.text = s.output.text ++ (out ++ ['\n', '\n']) ∧ 2 ≤ o.newlines := by
  have hkind : Kind.of "p" [] = .paragraph := by decide
  have hquote : place.isInside "blockquote" = false := by simp [Place.isInside, hplace]
  have hitem : place.isInside "li" = false := by simp [Place.isInside, hplace]
  have hstart : startParagraph place s = (s, true) := by
    have hline : s.blankLine = s := by rw [State.blankLine, Output.blankLine_eq_self hready]
    simp only [startParagraph, halert, hquote, hitem, hline, Bool.false_and, Bool.false_eq_true,
      if_false]
  obtain ⟨o, hwrite, ho⟩ := h.inside ⟨"p" :: place.ancestors, true⟩ s hcell hlink
  refine ⟨o.write ['\n', '\n'], ?_, ?_, Output.newlines_write_blankLine⟩
  · rw [writeElement, openElement]
    simp only [Element.tag, Element.attrs, hkind, hstart, hwrite]
    simp only [closeElement, Element.tag, Element.attrs, hkind, hquote, hitem, Bool.or_self,
      Bool.false_eq_true, if_false]
    rfl
  · simp [ho]

section Paragraphs

variable {α : Type} {l : List α} {text : α → Option Text} {children : α → List Element}
  {written : α → Text}

theorem writeAll_paragraphs
    (hl : ∀ p ∈ l, IsWritten style rawHtml (text p) (children p) (written p))
    (hplace : place.ancestors = []) (hcell : s.cell = none) (hlink : s.inLink = false)
    (halert : s.inAlert = false) (hready : s.output.pieces = [] ∨ 2 ≤ s.output.newlines) :
    ∃ o, writeAll style rawHtml place (l.map fun p ↦ .mk "p" [] (text p) (children p) none) s =
        .ok { s with output := o } ∧
      o.text = s.output.text ++ l.flatMap fun p ↦ written p ++ ['\n', '\n'] := by
  induction l generalizing s place with
  | nil => exact ⟨s.output, rfl, (List.append_nil _).symm⟩
  | cons p l ih =>
    obtain ⟨o, hwrite, ho, hlines⟩ := writeElement_paragraph (hl p List.mem_cons_self) hplace hcell
      hlink halert hready
    obtain ⟨o', hrest, ho'⟩ := @ih ⟨place.ancestors, place.ancestors.isEmpty⟩
      { s with output := o } (fun q hq ↦ hl q (List.mem_cons_of_mem _ hq)) hplace hcell hlink halert
      (Or.inr hlines)
    refine ⟨o', ?_, ?_⟩
    · rw [List.map_cons, writeAll, hwrite]
      exact hrest
    · simp [ho', ho]

/-- A document of paragraphs is written as these, with a blank line between two of them. -/
theorem write_of_isWritten (hne : l ≠ [])
    (hl : ∀ p ∈ l, IsWritten style rawHtml (text p) (children p) (written p)) :
    write style (.mk "div" [] none (l.map fun p ↦ .mk "p" [] (text p) (children p) none) none)
        rawHtml = .ok (Text.join ['\n', '\n'] (l.map written)) := by
  have hplace : (⟨[], true⟩ : Place).ancestors = [] := rfl
  obtain ⟨o, hwrite, ho⟩ := writeAll_paragraphs (s := {}) hl hplace rfl rfl rfl (Or.inl rfl)
  have htext : o.text = Text.join ['\n', '\n'] (l.map written) ++ ['\n', '\n'] := by
    rw [Text.join_append_sep (mt List.map_eq_nil_iff.mp hne), List.flatMap_map, ho]
    rfl
  obtain ⟨t, c, hlast, hblank⟩ :
      ∃ t c, Text.join ['\n', '\n'] (l.map written) = t ++ [c] ∧ Text.isBlank c = false := by
    obtain rfl | ⟨before, p, rfl⟩ := List.eq_nil_or_concat l
    · exact absurd rfl hne
    · obtain ⟨t, c, hp, hblank⟩ := (hl p (by simp)).last
      obtain ⟨u, hjoin⟩ := Text.exists_join_concat (t := t ++ [c]) ['\n', '\n']
        (before.map written)
      exact ⟨u ++ t, c, by simp [hp, hjoin], hblank⟩
  have hstrip : Text.stripEnd o.text = Text.join ['\n', '\n'] (l.map written) := by
    have hfeeds (u : Text) : u ++ ['\n', '\n'] = (u ++ ['\n']) ++ ['\n'] := by simp
    rw [htext, hlast, hfeeds, Text.stripEnd, Text.trimEnd_concat_of_true rfl,
      Text.trimEnd_concat_of_true rfl, Text.trimEnd_concat_of_false hblank]
  have hnone : writeText? style rawHtml none {} = {} := rfl
  rw [write]
  simp only [Element.children, Element.text, hnone, hwrite, Except.map, hstrip]

end Paragraphs

/-- A running text is written with each answer in the place of its name. -/
theorem isWritten_answers (has : IsRunning as)
    (hshows : ∀ letters ∈ namesOf as, Shows letters (r letters) (f letters)) :
    IsWritten style rawHtml (given (lead as)) (answers r as) (writtenWith f as) where
  inside place s hcell hlink := by
    have hno {x : Char} (hx : isPlain x = false) : x ∉ lead as := not_mem_lead has.toIsSpelled hx
    obtain ⟨o, hwrite, ho⟩ := writeAll_answers (s := s.write (lead as)) has.toIsSpelled hshows hcell
      hlink style rawHtml place
    refine ⟨o, ?_, ?_⟩
    · rw [writeText?_given (hno rfl) (hno rfl) (hno rfl), State.put_eq_write hcell, hwrite]
      rfl
    · simp [ho, State.write, ← lead_append_behind]
  last := has.exists_last_writtenWith fun letters hl ↦ (hshows letters hl).exists_last

/-- **A document of running texts is written as these, with each answer in the place of its
name.** -/
theorem write_paragraphs (hne : ps ≠ []) (hps : ∀ p ∈ ps, IsRunning p)
    (hshows : ∀ letters ∈ ps.flatMap namesOf, Shows letters (r letters) (f letters)) :
    write style (.mk "div" [] none (ps.map (paragraphOf r)) none) rawHtml =
      .ok (Text.join ['\n', '\n'] (ps.map (writtenWith f))) :=
  write_of_isWritten hne fun p hp ↦
    isWritten_answers (hps p hp) fun l hl ↦ hshows l (List.mem_flatMap.mpr ⟨p, hp, hl⟩)

end ApiSite.Markup.Writer
