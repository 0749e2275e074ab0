import ApiSite.Proofs.Markup.Writer
import Mathlib.Logic.Relation

/-!
# The walk over a tree

The writer goes through a tree in document order. Where it is, and with what state, is a cursor. A
step takes the cursor past an element that has been written, or inside of one that has been opened
and whose content is still to be written (`Cursor.Step`). An element whose opening takes its content
along, such as code, is passed only (`openElement_eq_ok_false_iff` names these).

What a single element does is said once. Opening and closing it write, and beyond that do to the
open lists, items and quotations and to the flag of alerts what `State.opened` and `State.closed`
say (`keeps_openElement`, `keeps_closeElement`). What holds of an element if its content has it, and
of elements in a row if each of them has it, then holds of all that is written
(`writeElement_induction`, `writeAll_induction`).

Two facts about the walk carry what is proved about pages. The output only grows: what has been
written when the walk is at a cursor stands at the beginning of the page (`Reaches.writes`). And
every place of the tree is reached, or lies in an element whose opening took its content along
(`reaches_or_skips`).
-/

set_option autoImplicit false

namespace ApiSite.Markup.Writer

variable {style : Style} {rawHtml : List Text} {place : Place} {s s' t t' : State} {u : Text}
  {e : Element} {es ahead before : List Element} {o o' o'' : Output}

/-! ### Opening, content, closing -/

/-- The place of the first child of an element. -/
def Place.inside (p : Place) (tag : Text) : Place := ⟨tag :: p.ancestors, true⟩

/-- The place behind an element. -/
def Place.behind (p : Place) : Place := ⟨p.ancestors, p.ancestors.isEmpty⟩

theorem writeElement_eq_ok_iff : writeElement style rawHtml place e s = .ok s' ↔
    openElement style place e s = .ok (s', false) ∨
      ∃ t t', openElement style place e s = .ok (t, true) ∧
        writeAll style rawHtml (place.inside e.tag) e.children
          (writeText? style rawHtml e.text t) = .ok t' ∧
        closeElement style place e t' = s' := by
  obtain ⟨tag, attrs, text, children, tail⟩ := e
  rw [writeElement, Place.inside]
  simp only [Element.tag, Element.children, Element.text]
  rcases openElement style place (.mk tag attrs text children tail) s with err | ⟨t, flag⟩
  · simp
  · cases flag with
    | false => simp
    | true =>
      cases hall : writeAll style rawHtml ⟨tag :: place.ancestors, true⟩ children
        (writeText? style rawHtml text t) <;> simp [hall]

theorem writeAll_cons_eq_ok_iff : writeAll style rawHtml place (e :: es) s = .ok s' ↔
    ∃ t, writeElement style rawHtml place e s = .ok t ∧
      writeAll style rawHtml place.behind es (writeText? style rawHtml e.tail t) = .ok s' := by
  obtain ⟨tag, attrs, text, children, tail⟩ := e
  rw [writeAll, Place.behind]
  simp only [Element.tail]
  cases writeElement style rawHtml place (.mk tag attrs text children tail) s <;> simp

section Induction

variable {P : Place → Element → State → State → Prop}
  {Q : Place → List Element → State → State → Prop}

mutual

/-- The induction on a successful run, for an element. -/
theorem writeElement_induction
    (consumed : ∀ {place e s s'}, openElement style place e s = .ok (s', false) → P place e s s')
    (entered : ∀ {place e s t t'}, openElement style place e s = .ok (t, true) →
      Q (place.inside e.tag) e.children (writeText? style rawHtml e.text t) t' →
        P place e s (closeElement style place e t'))
    (nil : ∀ {place s}, Q place [] s s)
    (cons : ∀ {place e es s t s'}, writeElement style rawHtml place e s = .ok t → P place e s t →
      Q place.behind es (writeText? style rawHtml e.tail t) s' → Q place (e :: es) s s') :
    ∀ (e : Element) (place : Place) (s s' : State),
      writeElement style rawHtml place e s = .ok s' → P place e s s'
  | .mk _ _ _ children _, _, _, _, hwrite => by
    rcases writeElement_eq_ok_iff.mp hwrite with hopen | ⟨t, t', hopen, hinside, rfl⟩
    · exact consumed hopen
    · exact entered hopen (writeAll_induction consumed entered nil cons children _ _ _ hinside)

/-- The induction on a successful run, for elements in a row. -/
theorem writeAll_induction
    (consumed : ∀ {place e s s'}, openElement style place e s = .ok (s', false) → P place e s s')
    (entered : ∀ {place e s t t'}, openElement style place e s = .ok (t, true) →
      Q (place.inside e.tag) e.children (writeText? style rawHtml e.text t) t' →
        P place e s (closeElement style place e t'))
    (nil : ∀ {place s}, Q place [] s s)
    (cons : ∀ {place e es s t s'}, writeElement style rawHtml place e s = .ok t → P place e s t →
      Q place.behind es (writeText? style rawHtml e.tail t) s' → Q place (e :: es) s s') :
    ∀ (es : List Element) (place : Place) (s s' : State),
      writeAll style rawHtml place es s = .ok s' → Q place es s s'
  | [], _, _, _, hwrite => by
    rw [writeAll, Except.ok.injEq] at hwrite
    exact hwrite ▸ nil
  | .mk tag attrs text children tail :: es, _, _, _, hwrite => by
    obtain ⟨t, hone, hrest⟩ := writeAll_cons_eq_ok_iff.mp hwrite
    exact cons hone (writeElement_induction consumed entered nil cons
      (.mk tag attrs text children tail) _ _ _ hone)
      (writeAll_induction consumed entered nil cons es _ _ _ hrest)

end

end Induction

/-! ### What is only written -/

/-- An output comes from another one by writing. -/
inductive Output.Grows (o : Output) : Output → Prop
  | refl : o.Grows o
  | write {o' : Output} (h : o.Grows o') (t : Text) : o.Grows (o'.write t)

namespace Output.Grows

theorem trans (h : o.Grows o') (h' : o'.Grows o'') : o.Grows o'' := by
  induction h' with
  | refl => exact h
  | write _ t ih => exact ih.write t

theorem blankLine (o : Output) : o.Grows o.blankLine := by
  rw [Output.blankLine]
  split
  · exact .refl
  · exact .write .refl _

theorem endLine (o : Output) : o.Grows o.endLine := by
  rw [Output.endLine]
  split
  · exact .write .refl _
  · exact .refl

theorem isPrefix (h : o.Grows o') : o.text <+: o'.text := by
  induction h with
  | refl => exact List.prefix_rfl
  | write _ t ih => exact ih.trans (Output.text_write ▸ List.prefix_append _ _)

end Output.Grows

/-- A state comes from another one by writing, with the same open lists, items and quotations, and
in an alert or not as before. -/
structure State.Keeps (s s' : State) : Prop where
  output : s.output.Grows s'.output
  ordinals : s'.ordinals = s.ordinals
  itemWidths : s'.itemWidths = s.itemWidths
  quoteDepth : s'.quoteDepth = s.quoteDepth
  inAlert : s'.inAlert = s.inAlert

namespace State

theorem Keeps.refl (s : State) : s.Keeps s := ⟨.refl, rfl, rfl, rfl, rfl⟩

theorem Keeps.trans (h : s.Keeps s') (h' : s'.Keeps t) : s.Keeps t :=
  ⟨h.output.trans h'.output, h'.ordinals.trans h.ordinals, h'.itemWidths.trans h.itemWidths,
    h'.quoteDepth.trans h.quoteDepth, h'.inAlert.trans h.inAlert⟩

theorem keeps_write (u : Text) (s : State) : s.Keeps (s.write u) :=
  ⟨.write .refl u, rfl, rfl, rfl, rfl⟩

theorem keeps_blankLine (s : State) : s.Keeps s.blankLine :=
  ⟨.blankLine s.output, rfl, rfl, rfl, rfl⟩

theorem keeps_endLine (s : State) : s.Keeps s.endLine := ⟨.endLine s.output, rfl, rfl, rfl, rfl⟩

theorem keeps_put (u : Text) (s : State) : s.Keeps (s.put u) := by
  rw [put]
  split
  · exact ⟨.refl, rfl, rfl, rfl, rfl⟩
  · exact s.keeps_write u

/-- A text on a line behind a blank one. -/
theorem keeps_writeBelow (u : Text) (s : State) : s.Keeps (s.blankLine.write u) :=
  s.keeps_blankLine.trans (s.blankLine.keeps_write u)

end State

theorem keeps_writeText? (text : Option Text) (s : State) :
    s.Keeps (writeText? style rawHtml text s) := by
  rw [writeText?.eq_def]
  split
  · exact .refl s
  · exact .refl s
  · exact s.keeps_put _

theorem keeps_writeFence (language code : Text) (s : State) :
    s.Keeps (writeFence language code s) :=
  ((s.keeps_write _).trans (State.keeps_write _ _)).trans (State.keeps_write _ _)

theorem keeps_startList (place : Place) (s : State) : s.Keeps (startList place s) := by
  rw [startList]
  split
  · exact s.keeps_endLine
  · exact s.keeps_blankLine

theorem keeps_startParagraph (place : Place) (s : State) :
    s.Keeps (startParagraph place s).1 := by
  rw [startParagraph]
  split_ifs
  · exact ⟨.refl, rfl, rfl, rfl, rfl⟩
  · exact .refl s
  · exact s.keeps_write _
  · exact .refl s
  · exact s.keeps_write _
  · exact s.keeps_blankLine

theorem keeps_writeTable (s : State) : s.Keeps (writeTable s) := by
  have hfold (rowOf : List Text → Text) (rows : List (List Text)) (s : State) :
      s.Keeps (rows.foldl (fun s row => s.write (rowOf row)) s) := by
    induction rows generalizing s with
    | nil => exact .refl s
    | cons row rows ih => exact (s.keeps_write _).trans (ih _)
  rw [writeTable]
  split
  · exact .refl s
  · next header body _ =>
    have hbody := hfold fun row ↦ rowText ((List.range header.length).map fun i ↦ (row[i]?).getD [])
    exact (s.keeps_write _).trans ((State.keeps_write _ _).trans (hbody body _))

theorem keeps_closeTag (e : Element) (s : State) : s.Keeps (closeTag style e s) := by
  rw [closeTag]
  split_ifs
  · exact .refl s
  · exact (s.keeps_put _).trans (State.keeps_write _ _)
  · exact s.keeps_put _
  · exact s.keeps_put _

/-! ### Opening and closing an element -/

/-- The open lists, items and quotations, and whether an alert is open, once an element has been
opened. -/
def State.opened (place : Place) (e : Element) (s : State) : State :=
  match Kind.of e.tag e.attrs with
  | .item => { s with
      ordinals := (nextMarker place s).2.ordinals
      itemWidths := (nextMarker place s).1.length :: s.itemWidths }
  | .numberedList =>
    match beforeFirst e.attrs with
    | .ok n => { s with ordinals := n :: s.ordinals }
    | .error _ => s
  | .quotation => { s with quoteDepth := s.quoteDepth + 1 }
  | .alert => { s with inAlert := true }
  | _ => s

/-- The open lists, items and quotations, and whether an alert is open, once an element has been
closed. -/
def State.closed (e : Element) (s : State) : State :=
  match Kind.of e.tag e.attrs with
  | .item => { s with itemWidths := s.itemWidths.drop 1 }
  | .numberedList => { s with ordinals := s.ordinals.drop 1 }
  | .quotation => { s with quoteDepth := s.quoteDepth - 1 }
  | .alert => { s with inAlert := false }
  | _ => s

theorem output_opened (place : Place) (e : Element) (s : State) :
    (s.opened place e).output = s.output := by
  rw [State.opened]
  split
  case h_2 => split <;> rfl
  all_goals rfl

theorem output_closed (e : Element) (s : State) : (s.closed e).output = s.output := by
  rw [State.closed]
  split <;> rfl

/-- The next marker counts an item in the innermost list, and does nothing else. -/
theorem nextMarker_snd_eq (place : Place) (s : State) :
    (nextMarker place s).2 = { s with ordinals := (nextMarker place s).2.ordinals } := by
  rw [nextMarker.eq_def]
  split
  · split <;> rfl
  · rfl

/-- An item is opened with its marker behind the spaces under those of the open items. -/
theorem openElement_item (hkind : Kind.of e.tag e.attrs = .item) (place : Place) (s : State) :
    openElement style place e s = .ok ({ s with
      output := s.output.write (s.indent ++ (nextMarker place s).1)
      ordinals := (nextMarker place s).2.ordinals
      itemWidths := (nextMarker place s).1.length :: s.itemWidths }, true) := by
  have hcounted := nextMarker_snd_eq place s
  simp only [openElement, hkind]
  generalize nextMarker place s = found at hcounted ⊢
  obtain ⟨marker, s'⟩ := found
  simp only at hcounted ⊢
  rw [hcounted]
  rfl

/-- Opening an element writes, and otherwise does what `State.opened` says. -/
theorem keeps_openElement {flag : Bool} (h : openElement style place e s = .ok (s', flag)) :
    (s.opened place e).Keeps s' := by
  rw [State.opened]
  cases hkind : Kind.of e.tag e.attrs
  case item =>
    rw [openElement_item hkind] at h
    cases h
    exact ⟨.write .refl _, rfl, rfl, rfl, rfl⟩
  all_goals simp only [openElement, hkind] at h ⊢
  case numberedList =>
    cases hfirst : beforeFirst e.attrs <;> rw [hfirst] at h <;> cases h
    exact keeps_startList place _
  case paragraph =>
    have hs : s' = (startParagraph place s).1 := by
      rw [Except.ok.inj h]
    exact hs ▸ keeps_startParagraph place s
  case preformatted =>
    split at h <;> cases h
    · exact s.keeps_blankLine.trans (keeps_writeFence _ _ _)
    · exact s.keeps_blankLine
  case other =>
    split at h <;> cases h
    exact s.keeps_put _
  all_goals cases h
  case heading | rule => exact s.keeps_writeBelow _
  case quotation => exact State.keeps_writeBelow _ _
  case bulletList => exact keeps_startList place s
  case table => exact ⟨.blankLine _, rfl, rfl, rfl, rfl⟩
  case tableSection | tableRow | headerCell | bodyCell => exact ⟨.refl, rfl, rfl, rfl, rfl⟩
  case link =>
    have hlink : s.Keeps { s with inLink := true } := ⟨.refl, rfl, rfl, rfl, rfl⟩
    exact hlink.trans (State.keeps_put _ _)
  case alert =>
    refine ⟨?_, rfl, rfl, rfl, rfl⟩
    dsimp only
    exact (s.keeps_writeBelow _).output
  all_goals exact s.keeps_put _

/-- Closing an element writes, and otherwise does what `State.closed` says. -/
theorem keeps_closeElement (place : Place) (e : Element) (s : State) :
    (s.closed e).Keeps (closeElement style place e s) := by
  rw [State.closed]
  cases hkind : Kind.of e.tag e.attrs <;> simp only [closeElement, hkind]
  case item | quotation => exact State.keeps_endLine _
  case heading =>
    split
    · exact s.keeps_write _
    · exact s.keeps_write _
    · exact (s.keeps_write _).trans (State.keeps_write _ _)
  case paragraph => split <;> exact s.keeps_write _
  case link =>
    have hlink : s.Keeps { s with inLink := false } := ⟨.refl, rfl, rfl, rfl, rfl⟩
    exact hlink.trans (State.keeps_put _ _)
  case table => exact keeps_writeTable s
  case tableRow => split <;> exact ⟨.refl, rfl, rfl, rfl, rfl⟩
  case headerCell | bodyCell => split <;> exact ⟨.refl, rfl, rfl, rfl, rfl⟩
  case alert =>
    split
    · obtain ⟨houtput, hordinals, hwidths, hdepth, -⟩ :=
        (s.keeps_endLine.trans (State.keeps_write ":::\n" _)).trans (State.keeps_blankLine _)
      exact ⟨houtput, hordinals, hwidths, hdepth, rfl⟩
    · next hflag =>
      obtain ⟨houtput, hordinals, hwidths, hdepth, halert⟩ := @keeps_closeTag style e s
      exact ⟨houtput, hordinals, hwidths, hdepth, halert.trans (Bool.eq_false_iff.mpr hflag)⟩
  case other => exact keeps_closeTag e s
  case emphasis | strong | deletion => exact s.keeps_put _
  all_goals exact .refl _

theorem grows_openElement {flag : Bool} (h : openElement style place e s = .ok (s', flag)) :
    s.output.Grows s'.output :=
  output_opened place e s ▸ (keeps_openElement h).output

theorem grows_closeElement (place : Place) (e : Element) (s : State) :
    s.output.Grows (closeElement style place e s).output :=
  output_closed e s ▸ (keeps_closeElement place e s).output

theorem grows_writeElement (hwrite : writeElement style rawHtml place e s = .ok s') :
    s.output.Grows s'.output := by
  refine writeElement_induction (P := fun _ _ s s' ↦ s.output.Grows s'.output)
    (Q := fun _ _ s s' ↦ s.output.Grows s'.output) grows_openElement ?_ .refl ?_ e place s s' hwrite
  · intro place e s t t' hopen hinside
    exact (grows_openElement hopen).trans
      ((keeps_writeText? e.text t).output.trans (hinside.trans (grows_closeElement place e t')))
  · intro place e es s t s' _ hone hrest
    exact hone.trans ((keeps_writeText? e.tail t).output.trans hrest)

theorem grows_writeAll (hwrite : writeAll style rawHtml place es s = .ok s') :
    s.output.Grows s'.output := by
  induction es generalizing place s with
  | nil =>
    rw [writeAll, Except.ok.injEq] at hwrite
    exact hwrite ▸ .refl
  | cons e es ih =>
    obtain ⟨t, hone, hrest⟩ := writeAll_cons_eq_ok_iff.mp hwrite
    exact (grows_writeElement hone).trans ((keeps_writeText? e.tail t).output.trans (ih hrest))

theorem startParagraph_snd (place : Place) (s : State) :
    (startParagraph place s).2 = !(s.inAlert && !s.titleSkipped) := by
  rw [startParagraph]
  split_ifs with htitle <;> simp only [htitle, Bool.not_true, Bool.not_false]

/-- Elements that may be written as a whole when they are opened. -/
def Kind.mayTakeAlong : Kind → Bool
  | .code | .image | .lineBreak | .rule | .preformatted | .paragraph => true
  | _ => false

/-- Which elements take their content along when they are opened: code, images, line breaks, rules,
code blocks, and the first paragraph in an alert, which is its title. -/
theorem openElement_eq_ok_false_iff :
    (∃ s', openElement style place e s = .ok (s', false)) ↔
      match Kind.of e.tag e.attrs with
      | .code | .image | .lineBreak | .rule => True
      | .preformatted => (soleCode? e.children).isSome = true
      | .paragraph => (s.inAlert && !s.titleSkipped) = true
      | _ => False := by
  cases hkind : Kind.of e.tag e.attrs <;> simp only [openElement, hkind]
  case code | image | lineBreak | rule => exact iff_of_true ⟨_, rfl⟩ trivial
  case preformatted =>
    cases soleCode? e.children with
    | none => exact iff_of_false (by rintro ⟨_, h⟩; cases h) Bool.false_ne_true
    | some code => exact iff_of_true ⟨_, rfl⟩ rfl
  case paragraph =>
    have hsnd := startParagraph_snd place s
    constructor
    · rintro ⟨s', h⟩
      rw [Except.ok.inj h] at hsnd
      rwa [eq_comm, Bool.not_eq_false'] at hsnd
    · intro htitle
      rw [htitle] at hsnd
      exact ⟨_, congrArg Except.ok (Prod.ext rfl hsnd)⟩
  case numberedList =>
    refine iff_of_false ?_ id
    rintro ⟨_, h⟩
    split at h <;> cases h
  case other =>
    refine iff_of_false ?_ id
    rintro ⟨_, h⟩
    split at h <;> cases h
  all_goals exact iff_of_false (by rintro ⟨_, h⟩; cases h) id

/-- These open no list with numbers, no item, no quotation and no alert. -/
theorem opened_of_consumed (h : openElement style place e s = .ok (s', false)) :
    s.opened place e = s := by
  have hkinds := openElement_eq_ok_false_iff.mp ⟨s', h⟩
  rw [State.opened]
  cases hkind : Kind.of e.tag e.attrs <;> rw [hkind] at hkinds
  case numberedList | item | quotation | alert => exact hkinds.elim

/-! ### Cursors -/

/-- An element with those before it under the same parent. -/
structure Stop where
  before : List Element
  element : Element

/-- A place in a tree: the elements around it, the innermost first, and those before and behind it
under the same parent. -/
structure Position where
  around : List Stop
  before : List Element
  ahead : List Element

/-- From a position to the one behind the next element, or to the first one inside of it. -/
inductive Position.Step : Position → Position → Prop
  | inside {around : List Stop} {before : List Element} {e : Element} {ahead : List Element} :
    Step ⟨around, before, e :: ahead⟩ ⟨⟨before, e⟩ :: around, [], e.children⟩
  | past {around : List Stop} {before : List Element} {e : Element} {ahead : List Element} :
    Step ⟨around, before, e :: ahead⟩ ⟨around, before ++ [e], ahead⟩

/-- A position with what the walk carries along when it is there. -/
structure Cursor where
  position : Position
  place : Place
  state : State

/-- The cursor inside of an element, from the state in which it has been opened. -/
abbrev Cursor.inside (style : Style) (rawHtml : List Text) (around : List Stop)
    (before : List Element) (e : Element) (place : Place) (t : State) : Cursor :=
  ⟨⟨⟨before, e⟩ :: around, [], e.children⟩, place.inside e.tag, writeText? style rawHtml e.text t⟩

/-- The cursor behind an element, from the state in which it has been written. -/
abbrev Cursor.past (style : Style) (rawHtml : List Text) (around : List Stop)
    (before : List Element) (e : Element) (ahead : List Element) (place : Place) (t : State) :
    Cursor :=
  ⟨⟨around, before ++ [e], ahead⟩, place.behind, writeText? style rawHtml e.tail t⟩

/-- The walk goes inside of an element that it has opened, or past one that it has written. -/
inductive Cursor.Step (style : Style) (rawHtml : List Text) : Cursor → Cursor → Prop
  | inside {around : List Stop} {before : List Element} {e : Element} {ahead : List Element}
    {place : Place} {s t : State} (hopen : openElement style place e s = .ok (t, true)) :
    Step style rawHtml ⟨⟨around, before, e :: ahead⟩, place, s⟩
      (.inside style rawHtml around before e place t)
  | past {around : List Stop} {before : List Element} {e : Element} {ahead : List Element}
    {place : Place} {s t : State} (hwrite : writeElement style rawHtml place e s = .ok t) :
    Step style rawHtml ⟨⟨around, before, e :: ahead⟩, place, s⟩
      (.past style rawHtml around before e ahead place t)

/-- The walk gets from one cursor to another. -/
abbrev Reaches (style : Style) (rawHtml : List Text) : Cursor → Cursor → Prop :=
  Relation.ReflTransGen (Cursor.Step style rawHtml)

/-- A position is ahead of another one. -/
abbrev Position.LeadsTo : Position → Position → Prop := Relation.ReflTransGen Position.Step

/-- The position before all that is below the root of a tree. -/
def Position.first (root : Element) : Position := ⟨[], [], root.children⟩

/-- Where the walk over a tree begins. -/
def start (style : Style) (rawHtml : List Text) (root : Element) : Cursor :=
  ⟨.first root, ⟨[], true⟩, writeText? style rawHtml root.text {}⟩

/-- What is ahead of a cursor is written, and the state is the given one then. -/
def Cursor.Writes (style : Style) (rawHtml : List Text) (c : Cursor) (s : State) : Prop :=
  writeAll style rawHtml c.place c.position.ahead c.state = .ok s

theorem write_eq_ok_iff {root : Element} {out : Text} : write style root rawHtml = .ok out ↔
    ∃ s, (start style rawHtml root).Writes style rawHtml s ∧ Text.stripEnd s.output.text = out := by
  rw [write]
  simp only [Cursor.Writes, start, Position.first]
  cases writeAll style rawHtml ⟨[], true⟩ root.children (writeText? style rawHtml root.text {}) <;>
    simp [Except.map]

section Walk

variable {c c' c'' : Cursor} {pos : Position}

/-- What is written from a cursor on stands before what is written from an earlier one on. -/
theorem Cursor.Step.writes (h : c.Step style rawHtml c') (hc : c.Writes style rawHtml s) :
    ∃ s', c'.Writes style rawHtml s' ∧ s'.output.Grows s.output := by
  cases h with
  | inside hopen =>
    obtain ⟨t, hone, hrest⟩ := writeAll_cons_eq_ok_iff.mp hc
    rcases writeElement_eq_ok_iff.mp hone with hclosed | ⟨u, u', hopen', hinside, rfl⟩
    · rw [hopen] at hclosed
      cases hclosed
    · rw [hopen] at hopen'
      cases hopen'
      exact ⟨u', hinside, (grows_closeElement _ _ u').trans
        ((keeps_writeText? _ _).output.trans (grows_writeAll hrest))⟩
  | past hwrite =>
    obtain ⟨t, hone, hrest⟩ := writeAll_cons_eq_ok_iff.mp hc
    rw [hwrite] at hone
    cases hone
    exact ⟨s, hrest, .refl⟩

theorem Reaches.writes (h : Reaches style rawHtml c c') (hc : c.Writes style rawHtml s) :
    ∃ s', c'.Writes style rawHtml s' ∧ s'.output.Grows s.output := by
  induction h with
  | refl => exact ⟨s, hc, .refl⟩
  | tail _ hstep ih =>
    obtain ⟨t, ht, hgrows⟩ := ih
    obtain ⟨t', ht', hgrows'⟩ := hstep.writes ht
    exact ⟨t', ht', hgrows'.trans hgrows⟩

theorem Cursor.Step.grows (h : c.Step style rawHtml c') : c.state.output.Grows c'.state.output := by
  cases h with
  | inside hopen => exact (grows_openElement hopen).trans (keeps_writeText? _ _).output
  | past hwrite => exact (grows_writeElement hwrite).trans (keeps_writeText? _ _).output

/-- What is written at a cursor stays in front of what is written at a later one. -/
theorem Reaches.grows (h : Reaches style rawHtml c c') :
    c.state.output.Grows c'.state.output := by
  induction h with
  | refl => exact .refl
  | tail _ hstep ih => exact ih.trans hstep.grows

/-- The walk comes to an element around a position that is taken along as a whole when it is
opened. -/
def Cursor.Skips (style : Style) (rawHtml : List Text) (c : Cursor) (pos : Position) : Prop :=
  ∃ c' e ahead s', Reaches style rawHtml c c' ∧ c'.position.ahead = e :: ahead ∧
    openElement style c'.place e c'.state = .ok (s', false) ∧
    ⟨c'.position.before, e⟩ :: c'.position.around <:+ pos.around

/-- Every position is reached, or lies in an element that is taken along as a whole. -/
theorem reaches_or_skips (hpos : c.position.LeadsTo pos) (hc : c.Writes style rawHtml s) :
    (∃ c', Reaches style rawHtml c c' ∧ c'.position = pos) ∨ c.Skips style rawHtml pos := by
  induction hpos with
  | refl => exact .inl ⟨c, .refl, rfl⟩
  | tail _ hstep ih =>
    rcases ih with ⟨c', hreach, hposition⟩ | ⟨c', e, ahead, s', hreach, hahead, hopen, haround⟩
    · obtain ⟨t, hwrites, -⟩ := hreach.writes hc
      obtain ⟨position, place, u⟩ := c'
      cases hposition
      cases hstep with
      | @inside around before e ahead =>
        obtain ⟨t, hone, -⟩ := writeAll_cons_eq_ok_iff.mp hwrites
        rcases writeElement_eq_ok_iff.mp hone with hopen | ⟨u, u', hopen, -, -⟩
        · exact .inr ⟨_, e, ahead, t, hreach, rfl, hopen, List.suffix_rfl⟩
        · exact .inl ⟨_, hreach.tail (.inside hopen), rfl⟩
      | past =>
        obtain ⟨t, hone, -⟩ := writeAll_cons_eq_ok_iff.mp hwrites
        exact .inl ⟨_, hreach.tail (.past hone), rfl⟩
    · refine .inr ⟨c', e, ahead, s', hreach, hahead, hopen, ?_⟩
      cases hstep with
      | inside => exact haround.trans (List.suffix_cons _ _)
      | past => exact haround

/-- Nothing is skipped within elements that are opened by themselves. -/
theorem not_skips (hpos : ∀ stop ∈ pos.around,
    (Kind.of stop.element.tag stop.element.attrs).mayTakeAlong = false) :
    ¬c.Skips style rawHtml pos := by
  rintro ⟨c', e, ahead, s', -, -, hopen, haround⟩
  have hkind := hpos _ (haround.subset List.mem_cons_self)
  have hkinds := openElement_eq_ok_false_iff.mp ⟨s', hopen⟩
  cases h : Kind.of e.tag e.attrs <;> simp only [h] at hkind hkinds
  case code | image | lineBreak | rule | preformatted | paragraph =>
    exact Bool.false_ne_true hkind.symm

end Walk

end ApiSite.Markup.Writer
