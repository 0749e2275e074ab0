import ApiSite.Proofs.Markup.Marks
import ApiSite.Proofs.Markup.Walk

/-!
# The numbers and the indentation of items

The writer keeps the number of the latest item of each open list, and the width of the marker of
each open item. Both are stacks, and opening and closing are handled apart. What an element does to
them as a whole is the step that everything rests on (`Advances`): the stacks are what they were,
except that an item has been counted in the list that it stands in (`advances_writeElement`).

So at every place of the walk the stacks are those that the place itself tells: the widths are those
of the markers of the items around it, and the latest number of the list that it stands in follows
from the first number of that list and the items that are before the place (`IsCounted`,
`Cursor.Step.isCounted`). `item_markers` puts this into words about pages.

Elements within code, and within the few others whose opening takes their content along, are not
written at all, and a list there has no markers (`not_item_markers_in_code`).
-/

set_option autoImplicit false

namespace ApiSite.Markup.Writer

variable {style : Style} {rawHtml : List Text} {place : Place} {s s' t : State} {e : Element}
  {es : List Element} {c c' : Cursor} {stop : Stop} {around : List Stop} {tag : Text}
  {attrs : Attrs} {n k k' : Nat}

/-! ### Markers -/

/-- How many items are among elements. -/
def itemsIn (es : List Element) : Nat := es.countP fun e => e.tag == ("li" : Text)

/-- The number of the first item of a list. -/
def firstNumber (attrs : Attrs) : Int :=
  match beforeFirst attrs with
  | .ok n => n + 1
  | .error _ => 1

/-- The marker of an item: its number where the parent is a list with numbers, and else a dash. -/
def Stop.marker (parent : Option Stop) (stop : Stop) : Text :=
  match parent with
  | some list =>
    if list.element.tag == "ol" then
      Text.ofInt (firstNumber list.element.attrs + itemsIn stop.before) ++ ". "
    else "- "
  | none => "- "

/-- The markers of the items among the elements around a place, the innermost first. -/
def markers : List Stop → List Text
  | [] => []
  | stop :: around =>
    if stop.element.tag == "li" then stop.marker around.head? :: markers around
    else markers around

/-- A list begins with the given number: it says so in digits, or says nothing and begins with
one. -/
def StartsAt (attrs : Attrs) (n : Nat) : Prop :=
  (Element.lookup attrs "start" = none ∧ n = 1) ∨
    ∃ digits, Element.lookup attrs "start" = some digits ∧ digits ≠ [] ∧
      (∀ c ∈ digits, c.isDigit = true) ∧ n = Nat.ofDigitChars 10 digits 0

theorem decimalNumber?_of_isDigit {digits : Text} (hne : digits ≠ [])
    (hdigits : ∀ c ∈ digits, c.isDigit = true) :
    Text.decimalNumber? digits = some (Nat.ofDigitChars 10 digits 0) := by
  have hempty : digits.isEmpty = false := List.isEmpty_eq_false_iff.mpr hne
  rw [Text.decimalNumber?, hempty, if_neg Bool.false_ne_true, Text.foldl_digits]
  intro k c hc
  rw [Text.decimalValue?_of_isDigit (hdigits c hc)]

theorem isAnyDigit_of_isDigit {c : Char} (hc : c.isDigit = true) : Text.isAnyDigit c = true := by
  have hrange := Text.toNat_of_isDigit hc
  rw [Text.isAnyDigit, if_pos (by omega), hc]

/-- A list that can be written and says where it begins does begin there. -/
theorem StartsAt.firstNumber_eq {m : Int} (h : StartsAt attrs n)
    (hfirst : beforeFirst attrs = .ok m) : firstNumber attrs = n := by
  rw [firstNumber, hfirst]
  rw [beforeFirst] at hfirst
  split at hfirst
  · cases hfirst
  · rcases h with ⟨hnone, rfl⟩ | ⟨digits, hsome, hne, hdigits, rfl⟩
    · have hone : Text.decimalNumber? "1" = some 1 := by decide
      have hcond : (!("1".toList).isEmpty && ("1".toList).all Text.isAnyDigit) = true := by decide
      rw [hnone, Option.getD_none, if_pos hcond, hone] at hfirst
      cases hfirst
      rfl
    · have hall : digits.all Text.isAnyDigit = true :=
        List.all_eq_true.mpr fun c hc ↦ isAnyDigit_of_isDigit (hdigits c hc)
      have hempty : digits.isEmpty = false := List.isEmpty_eq_false_iff.mpr hne
      rw [hsome, Option.getD_some, hempty, hall, if_pos (by decide),
        decimalNumber?_of_isDigit hne hdigits] at hfirst
      cases hfirst
      exact Int.sub_add_cancel _ 1

/-! ### What an element does to the stacks -/

theorem eq_of_ite_eq {p : Prop} [Decidable p] {a b kind : Kind} (ha : a ≠ kind)
    (h : (if p then a else b) = kind) : b = kind := by
  by_cases hp : p
  · exact absurd ((if_pos hp).symm.trans h) ha
  · exact (if_neg hp).symm.trans h

theorem kind_eq_item_iff : Kind.of tag attrs = .item ↔ tag = "li" := by
  refine ⟨fun hkind ↦ ?_, fun htag ↦ htag ▸ rfl⟩
  rw [Kind.of] at hkind
  split at hkind
  · cases hkind
  · iterate 13 replace hkind := eq_of_ite_eq (by decide) hkind
    by_contra htag
    rw [if_neg (by simpa using htag)] at hkind
    iterate 6 replace hkind := eq_of_ite_eq (by decide) hkind
    cases hkind

theorem kind_eq_numberedList_iff : Kind.of tag attrs = .numberedList ↔ tag = "ol" := by
  refine ⟨fun hkind ↦ ?_, fun htag ↦ htag ▸ rfl⟩
  rw [Kind.of] at hkind
  split at hkind
  · cases hkind
  · iterate 12 replace hkind := eq_of_ite_eq (by decide) hkind
    by_contra htag
    rw [if_neg (by simpa using htag)] at hkind
    iterate 7 replace hkind := eq_of_ite_eq (by decide) hkind
    cases hkind

theorem itemsIn_append (es es' : List Element) : itemsIn (es ++ es') = itemsIn es + itemsIn es' :=
  List.countP_append

theorem itemsIn_singleton (e : Element) : itemsIn [e] = if e.tag = "li" then 1 else 0 := by
  simp [itemsIn, List.countP_singleton]

theorem itemsIn_eq_zero (hkind : Kind.of e.tag e.attrs ≠ .item) : itemsIn [e] = 0 := by
  rw [itemsIn_singleton, if_neg (mt kind_eq_item_iff.mpr hkind)]

/-- The parent is a list with numbers. -/
def Place.InList (p : Place) : Prop := p.ancestors.head? = some ("ol" : Text)

instance : Decidable place.InList := inferInstanceAs (Decidable (_ = _))

theorem inList_inside_iff : (place.inside tag).InList ↔ tag = "ol" := Option.some_inj

/-- The numbers of the latest items when the list that is the parent counts so many more. -/
def counted (place : Place) (k : Nat) (ordinals : List Int) : List Int :=
  if place.InList then ordinals.modifyHead (· + (k : Int)) else ordinals

/-- The open lists, items and quotations are the same, but for the items that the list counts that
is the parent. -/
structure Advances (place : Place) (k : Nat) (s s' : State) : Prop where
  ordinals : s'.ordinals = counted place k s.ordinals
  itemWidths : s'.itemWidths = s.itemWidths
  quoteDepth : s'.quoteDepth = s.quoteDepth

theorem counted_of_not (hlist : ¬place.InList) {ordinals : List Int} :
    counted place k ordinals = ordinals := if_neg hlist

theorem counted_cons (hlist : place.InList) {m : Int} {outer : List Int} :
    counted place k (m :: outer) = (m + k) :: outer := if_pos hlist

theorem counted_nil : counted place k [] = [] := by
  rw [counted]
  split <;> rfl

theorem counted_zero (ordinals : List Int) : counted place 0 ordinals = ordinals := by
  cases ordinals with
  | nil => exact counted_nil
  | cons m outer =>
    by_cases hlist : place.InList
    · rw [counted_cons hlist, Int.natCast_zero, Int.add_zero]
    · exact counted_of_not hlist

theorem counted_counted (ordinals : List Int) :
    counted place k' (counted place k ordinals) = counted place (k + k') ordinals := by
  cases ordinals with
  | nil => rw [counted_nil, counted_nil, counted_nil]
  | cons m outer =>
    by_cases hlist : place.InList
    · rw [counted_cons hlist, counted_cons hlist, counted_cons hlist, Int.natCast_add,
        Int.add_assoc]
    · rw [counted_of_not hlist, counted_of_not hlist, counted_of_not hlist]

theorem State.Keeps.advances (h : s.Keeps s') (place : Place) : Advances place 0 s s' :=
  ⟨h.ordinals.trans (counted_zero _).symm, h.itemWidths, h.quoteDepth⟩

theorem Advances.trans (h : Advances place k s t) (h' : Advances place k' t s') :
    Advances place (k + k') s s' :=
  ⟨by rw [h'.ordinals, h.ordinals, counted_counted], h'.itemWidths.trans h.itemWidths,
    h'.quoteDepth.trans h.quoteDepth⟩

theorem Advances.trans_keeps (h : Advances place k s t) (h' : t.Keeps s') : Advances place k s s' :=
  h.trans (h'.advances place)

theorem Advances.of_keeps (h : s.Keeps t) (h' : Advances place k t s') : Advances place k s s' :=
  k.zero_add ▸ (h.advances place).trans h'

/-! ### Markers and numbers -/

theorem nextMarker_of_inList {m : Int} {outer : List Int} (hlist : place.InList)
    (hordinals : s.ordinals = m :: outer) :
    nextMarker place s = (Text.ofInt (m + 1) ++ ". ", { s with ordinals := (m + 1) :: outer }) := by
  rw [nextMarker.eq_def, hlist, hordinals]
  rfl

theorem nextMarker_of_ordinals_eq_nil (hordinals : s.ordinals = []) :
    nextMarker place s = ("- ".toList, s) := by
  rw [nextMarker.eq_def, hordinals]
  cases place.ancestors.head? <;> rfl

theorem nextMarker_of_not_inList (hlist : ¬place.InList) :
    nextMarker place s = ("- ".toList, s) := by
  rw [nextMarker.eq_def]
  split
  · next parent m outer hhead _ =>
    rw [Place.InList, hhead, Option.some_inj, ← beq_iff_eq] at hlist
    exact if_neg hlist
  · rfl

/-- The next item is counted in the list that is its parent. -/
theorem ordinals_nextMarker (place : Place) (s : State) :
    (nextMarker place s).2.ordinals = counted place 1 s.ordinals := by
  by_cases hlist : place.InList
  · cases hordinals : s.ordinals with
    | nil => rw [nextMarker_of_ordinals_eq_nil hordinals, counted_nil, ← hordinals]
    | cons m outer => rw [nextMarker_of_inList hlist hordinals, counted_cons hlist, Int.natCast_one]
  · rw [nextMarker_of_not_inList hlist, counted_of_not hlist]

/-! ### From opening to closing -/

theorem opened_item (hkind : Kind.of e.tag e.attrs = .item) (place : Place) (s : State) :
    s.opened place e = { s with
      ordinals := counted place 1 s.ordinals
      itemWidths := (nextMarker place s).1.length :: s.itemWidths } := by
  simp only [State.opened, hkind, ordinals_nextMarker]

/-- A list with numbers that has been opened says where it begins. -/
theorem exists_beforeFirst {flag : Bool} (hkind : Kind.of e.tag e.attrs = .numberedList)
    (hopen : openElement style place e s = .ok (t, flag)) :
    ∃ m, beforeFirst e.attrs = .ok m ∧
      s.opened place e = { s with ordinals := m :: s.ordinals } := by
  simp only [openElement, hkind] at hopen
  cases hfirst : beforeFirst e.attrs with
  | error err =>
    rw [hfirst] at hopen
    cases hopen
  | ok m => exact ⟨m, rfl, by simp only [State.opened, hkind, hfirst]⟩

/-- Within an element that is no list with numbers, nothing is counted. -/
theorem Advances.of_inside (h : Advances (place.inside e.tag) k s s')
    (hkind : Kind.of e.tag e.attrs ≠ .numberedList) : Advances place 0 s s' := by
  have hlist : ¬(place.inside e.tag).InList :=
    fun hin ↦ hkind (kind_eq_numberedList_iff.mpr (inList_inside_iff.mp hin))
  exact ⟨h.ordinals.trans ((counted_of_not hlist).trans (counted_zero _).symm), h.itemWidths,
    h.quoteDepth⟩

/-- What is opened and closed again is counted where it is an item. -/
theorem advances_opened_closed {t' : State} {flag : Bool}
    (hopen : openElement style place e s = .ok (t, flag))
    (hinside : Advances (place.inside e.tag) k (s.opened place e) t') :
    Advances place (itemsIn [e]) s (t'.closed e) := by
  rw [State.closed]
  cases hkind : Kind.of e.tag e.attrs
  case numberedList =>
    obtain ⟨m, -, hopened⟩ := exists_beforeFirst hkind hopen
    have hlist : (place.inside e.tag).InList :=
      inList_inside_iff.mpr (kind_eq_numberedList_iff.mp hkind)
    rw [hopened] at hinside
    have hordinals := hinside.ordinals
    rw [counted_cons hlist] at hordinals
    rw [itemsIn_eq_zero (by simp [hkind])]
    exact ⟨(congrArg (List.drop 1) hordinals).trans (counted_zero _).symm, hinside.itemWidths,
      hinside.quoteDepth⟩
  all_goals replace hinside : Advances place 0 (s.opened place e) t' :=
    hinside.of_inside (by simp [hkind])
  case item =>
    rw [opened_item hkind] at hinside
    rw [itemsIn_singleton, if_pos (kind_eq_item_iff.mp hkind)]
    exact ⟨hinside.ordinals.trans (counted_zero _), congrArg (List.drop 1) hinside.itemWidths,
      hinside.quoteDepth⟩
  all_goals
    rw [itemsIn_eq_zero (by simp [hkind])]
    simp only [State.opened, hkind] at hinside
  case quotation =>
    exact ⟨hinside.ordinals, hinside.itemWidths, congrArg (· - 1) hinside.quoteDepth⟩
  all_goals exact ⟨hinside.ordinals, hinside.itemWidths, hinside.quoteDepth⟩

theorem advances_closed {t' : State} (hopen : openElement style place e s = .ok (t, true))
    (hinside : Advances (place.inside e.tag) k t t') :
    Advances place (itemsIn [e]) s (closeElement style place e t') :=
  (advances_opened_closed hopen (hinside.of_keeps (keeps_openElement hopen))).trans_keeps
    (keeps_closeElement place e t')

/-- What is taken along with its content is no item. -/
theorem advances_consumed (hopen : openElement style place e s = .ok (t, false)) :
    Advances place (itemsIn [e]) s t := by
  have hitem : Kind.of e.tag e.attrs ≠ .item := by
    intro hkind
    rw [openElement_item hkind] at hopen
    cases hopen
  have hkeeps := keeps_openElement hopen
  rw [opened_of_consumed hopen] at hkeeps
  rw [itemsIn_eq_zero hitem]
  exact hkeeps.advances place

/-- Behind an element the stacks are as before, but for an item that is counted. -/
theorem advances_behind (h : Advances place (itemsIn [e]) s t)
    (h' : Advances place.behind (itemsIn es) (writeText? style rawHtml e.tail t) s') :
    Advances place (itemsIn (e :: es)) s s' := by
  have hrest : Advances place (itemsIn es) t s' :=
    .of_keeps (keeps_writeText? e.tail t) ⟨h'.ordinals, h'.itemWidths, h'.quoteDepth⟩
  have hitems : itemsIn (e :: es) = itemsIn [e] + itemsIn es := itemsIn_append [e] es
  exact hitems ▸ h.trans hrest

/-- The stacks are as before once an element has been written, but for an item that is counted. -/
theorem advances_writeElement (hwrite : writeElement style rawHtml place e s = .ok s') :
    Advances place (itemsIn [e]) s s' :=
  writeElement_induction (P := fun place e s s' ↦ Advances place (itemsIn [e]) s s')
    (Q := fun place es s s' ↦ Advances place (itemsIn es) s s') advances_consumed
    (fun hopen hinside ↦ advances_closed hopen (.of_keeps (keeps_writeText? _ _) hinside))
    (State.Keeps.advances (.refl _) _) (fun _ ↦ advances_behind) e place s s' hwrite

/-! ### At a place of the walk -/

/-- The stacks are those that the place tells. -/
structure IsCounted (c : Cursor) : Prop where
  ancestors : c.place.ancestors = c.position.around.map (·.element.tag)
  itemWidths : c.state.itemWidths = (markers c.position.around).map List.length
  ordinals : ∀ list ∈ c.position.around.head?, list.element.tag = "ol" →
    ∃ m outer, beforeFirst list.element.attrs = .ok m ∧
      c.state.ordinals = (m + itemsIn c.position.before) :: outer

theorem isCounted_start (root : Element) : IsCounted (start style rawHtml root) := by
  have hkeeps : ({} : State).Keeps (writeText? style rawHtml root.text {}) := keeps_writeText? _ _
  exact ⟨rfl, hkeeps.itemWidths, fun _ hlist ↦ absurd hlist nofun⟩

/-- The next marker is the one that the place tells. -/
theorem IsCounted.nextMarker_fst (h : IsCounted c) (e : Element) :
    (nextMarker c.place c.state).1 =
      Stop.marker c.position.around.head? ⟨c.position.before, e⟩ := by
  cases hhead : c.position.around.head? with
  | none =>
    have hlist : ¬c.place.InList := by
      rw [Place.InList, h.ancestors, List.head?_map, hhead]
      exact nofun
    rw [nextMarker_of_not_inList hlist]
    rfl
  | some list =>
    have hlist : c.place.InList ↔ list.element.tag = "ol" := by
      rw [Place.InList, h.ancestors, List.head?_map, hhead]
      exact Option.some_inj
    rw [Stop.marker]
    by_cases htag : list.element.tag = "ol"
    · obtain ⟨m, outer, hfirst, hordinals⟩ := h.ordinals list hhead htag
      have hnumber : m + itemsIn c.position.before + 1 =
          firstNumber list.element.attrs + itemsIn c.position.before := by
        rw [firstNumber, hfirst]
        simp only
        omega
      rw [nextMarker_of_inList (hlist.mpr htag) hordinals, if_pos (by simpa using htag), hnumber]
    · rw [nextMarker_of_not_inList (mt hlist.mp htag), if_neg (by simpa using htag)]

theorem itemWidths_opened (hkind : Kind.of e.tag e.attrs ≠ .item) (place : Place) (s : State) :
    (s.opened place e).itemWidths = s.itemWidths := by
  rw [State.opened]
  cases hkind' : Kind.of e.tag e.attrs
  case item => exact absurd hkind' hkind
  case numberedList => cases beforeFirst e.attrs <;> rfl
  all_goals rfl

/-- Inside of an element that was opened, the stacks are those that the place tells. -/
theorem IsCounted.inside {before ahead : List Element}
    (hc : IsCounted ⟨⟨around, before, e :: ahead⟩, place, s⟩)
    (hopen : openElement style place e s = .ok (t, true)) :
    IsCounted (.inside style rawHtml around before e place t) := by
  have hkeeps : (s.opened place e).Keeps (writeText? style rawHtml e.text t) :=
    (keeps_openElement hopen).trans (keeps_writeText? _ _)
  refine ⟨congrArg (e.tag :: ·) hc.ancestors, hkeeps.itemWidths.trans ?_, ?_⟩
  · have hwidths : s.itemWidths = (markers around).map List.length := hc.itemWidths
    rw [markers]
    by_cases hkind : Kind.of e.tag e.attrs = .item
    · have hmarker := hc.nextMarker_fst e
      rw [if_pos (by simpa using kind_eq_item_iff.mp hkind), List.map_cons, ← hwidths, ← hmarker,
        opened_item hkind]
    · rw [if_neg (by simpa using mt kind_eq_item_iff.mpr hkind), ← hwidths]
      exact itemWidths_opened hkind place s
  · intro list hlist htag
    cases Option.some.inj hlist
    obtain ⟨m, hfirst, hopened⟩ := exists_beforeFirst (kind_eq_numberedList_iff.mpr htag) hopen
    rw [hopened] at hkeeps
    exact ⟨m, s.ordinals, hfirst, hkeeps.ordinals.trans (by simp [itemsIn])⟩

/-- Behind an element that was written, the stacks are those that the place tells. -/
theorem IsCounted.past {before ahead : List Element}
    (hc : IsCounted ⟨⟨around, before, e :: ahead⟩, place, s⟩)
    (hwrite : writeElement style rawHtml place e s = .ok t) :
    IsCounted (.past style rawHtml around before e ahead place t) := by
  have hadvances : Advances place (itemsIn [e]) s (writeText? style rawHtml e.tail t) :=
    (advances_writeElement hwrite).trans_keeps (keeps_writeText? _ _)
  refine ⟨hc.ancestors, hadvances.itemWidths.trans hc.itemWidths, fun list hlist htag ↦ ?_⟩
  obtain ⟨m, outer, hfirst, hordinals⟩ := hc.ordinals list hlist htag
  have hin : place.InList := by
    have hancestors : place.ancestors = around.map (·.element.tag) := hc.ancestors
    rw [Place.InList, hancestors, List.head?_map, Option.mem_def.mp hlist, ← htag]
    rfl
  refine ⟨m, outer, hfirst, ?_⟩
  have hnow := hadvances.ordinals
  rw [hordinals, counted_cons hin, Int.add_assoc, ← Int.natCast_add, ← itemsIn_append] at hnow
  exact hnow

/-- Every step of the walk keeps the stacks to what the place tells. -/
theorem Cursor.Step.isCounted (h : c.Step style rawHtml c') (hc : IsCounted c) : IsCounted c' := by
  cases h with
  | inside hopen => exact hc.inside hopen
  | past hwrite => exact hc.past hwrite

theorem Reaches.isCounted (h : Reaches style rawHtml c c') (hc : IsCounted c) : IsCounted c' := by
  induction h with
  | refl => exact hc
  | tail _ hstep ih => exact hstep.isCounted ih

/-! ### The page -/

theorem ofInt_natCast (n : Nat) : Text.ofInt n = Text.ofNat n := rfl

/-- The walk comes to an item with the marker that its place tells. -/
theorem IsCounted.openElement_item {list : Stop} {before ahead : List Element}
    (hc : IsCounted ⟨⟨list :: around, before, e :: ahead⟩, place, s⟩)
    (hlist : list.element.tag = "ol") (hitem : e.tag = "li")
    (hstarts : StartsAt list.element.attrs n) :
    ∃ s', openElement style place e s = .ok (s', true) ∧ s'.output.text = s.output.text ++
      (Text.spaces (total ((markers (list :: around)).map List.length)) ++
        (Text.ofNat (n + itemsIn before) ++ ". ")) := by
  obtain ⟨m, outer, hfirst, -⟩ := hc.ordinals list rfl hlist
  have hmarker : (nextMarker place s).1 = Text.ofNat (n + itemsIn before) ++ ". " := by
    have hnext : (nextMarker place s).1 = Stop.marker (some list) ⟨before, e⟩ := hc.nextMarker_fst e
    rw [hnext, Stop.marker, if_pos (by simpa using hlist), hstarts.firstNumber_eq hfirst,
      ← Int.natCast_add, ofInt_natCast]
  have hwidths : s.itemWidths = (markers (list :: around)).map List.length := hc.itemWidths
  refine ⟨_, Writer.openElement_item (kind_eq_item_iff.mpr hitem) place s, ?_⟩
  rw [hmarker, State.indent, hwidths, Output.text_write]

theorem length_counted (place : Place) (k : Nat) (ordinals : List Int) :
    (counted place k ordinals).length = ordinals.length := by
  rw [counted]
  split
  · exact List.length_modifyHead
  · rfl

/-- **Items have the numbers and the indentation that their places tell.** For every tree that is
written, and every item in a list that says where it begins: unless an element around it is taken
along as a whole when it is opened, the walk comes to the item, and what it writes there is the
item's number, counted from the first one of the list, behind as many spaces as the markers of the
items around it are wide. Wherever the walk is, the open elements are those around the place, and
once an element has been written the stacks are what they were before it. -/
theorem item_markers {root : Element} {out : Text} (hwrite : write style root rawHtml = .ok out) :
    ∃ page, out = Text.stripEnd page ∧
      (∀ (list : Stop) (around : List Stop) (before : List Element) (item : Element)
          (ahead : List Element) (n : Nat),
        let position := Position.mk (list :: around) before (item :: ahead)
        (Position.first root).LeadsTo position →
        ¬(start style rawHtml root).Skips style rawHtml position →
        list.element.tag = "ol" → item.tag = "li" → StartsAt list.element.attrs n →
        ∃ place s s', Reaches style rawHtml (start style rawHtml root) ⟨position, place, s⟩ ∧
          openElement style place item s = .ok (s', true) ∧
          s'.output.text = s.output.text ++
            (Text.spaces (total ((markers (list :: around)).map List.length)) ++
              (Text.ofNat (n + itemsIn before) ++ ". ")) ∧
          s'.output.text <+: page) ∧
      ∀ (around : List Stop) (before : List Element) (e : Element) (ahead : List Element)
          (place : Place) (s : State),
        Reaches style rawHtml (start style rawHtml root) ⟨⟨around, before, e :: ahead⟩, place, s⟩ →
        place.ancestors = around.map (·.element.tag) ∧
          ∃ s', writeElement style rawHtml place e s = .ok s' ∧
            s'.itemWidths = s.itemWidths ∧ s'.quoteDepth = s.quoteDepth ∧
            s'.ordinals.length = s.ordinals.length := by
  obtain ⟨final, hfinal, hout⟩ := write_eq_ok_iff.mp hwrite
  refine ⟨final.output.text, hout.symm, ?_, ?_⟩
  · intro list around before item ahead n position hleads hskips hlist hitem hstarts
    obtain ⟨⟨_, place, s⟩, hreach, rfl⟩ := (reaches_or_skips hleads hfinal).resolve_right hskips
    obtain ⟨s', hopen, htext⟩ :=
      (hreach.isCounted (isCounted_start root)).openElement_item hlist hitem hstarts
    refine ⟨place, s, s', hreach, hopen, htext, ?_⟩
    -- what the item's opening writes stands on the page, as all that is written from here on
    have hinside : Reaches style rawHtml (start style rawHtml root) _ := hreach.tail (.inside hopen)
    obtain ⟨t, hwrites, hgrows⟩ := hinside.writes hfinal
    exact (((keeps_writeText? _ _).output.trans (grows_writeAll hwrites)).trans hgrows).isPrefix
  · intro around before e ahead place s hreach
    obtain ⟨t, hwrites, -⟩ := hreach.writes hfinal
    obtain ⟨s', hone, -⟩ := writeAll_cons_eq_ok_iff.mp hwrites
    have hadvances := advances_writeElement hone
    refine ⟨(hreach.isCounted (isCounted_start root)).ancestors, s', hone, hadvances.itemWidths,
      hadvances.quoteDepth, ?_⟩
    rw [hadvances.ordinals, length_counted]

/-- A list that begins with nine, and a list in its second item. -/
theorem item_markers_nested :
    let item := Element.ofText "li" "c"
    let inner := Element.mk "ol" [] none [item] none
    let first := Element.ofText "li" "a"
    let second := Element.mk "li" [] (some "b") [inner] none
    let outer := Element.mk "ol" [("start", some "9")] none [first, second] none
    let root := Element.mk "div" [] none [outer] none
    let out : Text := "9. a\n10. b\n    1. c"
    write ⟨[], "dart"⟩ root [] = .ok out ∧
      ∃ page, out = Text.stripEnd page ∧ ∃ before, before ++ "    1. ".toList <+: page := by
  intro item inner first second outer root out
  have hwrite : write ⟨[], "dart"⟩ root [] = .ok out := by decide +kernel
  obtain ⟨page, hpage, hitems, -⟩ := item_markers hwrite
  let position : Position := ⟨[⟨[], inner⟩, ⟨[first], second⟩, ⟨[], outer⟩], [], [item]⟩
  have hleads : (Position.first root).LeadsTo position :=
    (((Relation.ReflTransGen.refl.tail .inside).tail .past).tail .inside).tail .inside
  have hskips : ¬(start ⟨[], "dart"⟩ [] root).Skips ⟨[], "dart"⟩ [] position :=
    not_skips (by decide)
  obtain ⟨place, s, s', -, -, htext, hprefix⟩ :=
    hitems _ _ _ item _ 1 hleads hskips rfl rfl (.inl ⟨rfl, rfl⟩)
  have hmarker : Text.spaces (total ((markers position.around).map List.length)) ++
      (Text.ofNat (1 + itemsIn []) ++ ". ") = "    1. ".toList := by decide +kernel
  exact ⟨hwrite, page, hpage, s.output.text, hmarker ▸ htext ▸ hprefix⟩

/-- A list within code is written as the text that it holds. -/
theorem not_item_markers_in_code :
    let item := Element.ofText "li" "x"
    let list := Element.mk "ol" [] none [item] none
    let code := Element.mk "code" [] none [list] none
    let root := Element.mk "div" [] none [code] none
    (Position.first root).LeadsTo ⟨[⟨[], list⟩, ⟨[], code⟩], [], [item]⟩ ∧
      StartsAt list.attrs 1 ∧ write ⟨[], "dart"⟩ root [] = .ok "\x60x\x60" ∧
      Text.occursIn (Text.ofNat 1 ++ ". ") "\x60x\x60" = false := by
  intro item list code root
  exact ⟨(Relation.ReflTransGen.refl.tail .inside).tail .inside, .inl ⟨rfl, rfl⟩, by decide +kernel,
    by decide⟩

end ApiSite.Markup.Writer
