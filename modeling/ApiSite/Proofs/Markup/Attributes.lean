import ApiSite.Markup.Attributes
import ApiSite.Proofs.Text

/-!
# Documents without attribute lists

An attribute list stands in braces. A tree none of whose texts has an opening brace keeps its
attributes, texts and tails (`read_eq_self`). The list of a paragraph stands on a line of its own,
so that braces within a single line are none (`assigned_line`).
-/

set_option autoImplicit false

namespace ApiSite.Markup.Attributes

variable {t : Text}

theorem braces?_eq_none (ht : '\x7b' ∉ t) : braces? t = none := by
  rw [braces?.eq_def]
  split
  · exact absurd List.mem_cons_self ht
  · rfl

theorem finalList?_eq_none {ownLine : Bool} (ht : '\x7b' ∉ t) : finalList? ownLine t = none := by
  induction t with
  | nil => rfl
  | cons c t ih =>
    have hrest : '\x7b' ∉ t := mt (List.mem_cons_of_mem _) ht
    have hbraces : braces? (t.dropWhile (· == ' ')) = none :=
      braces?_eq_none fun hmem ↦ hrest ((List.dropWhile_suffix _).subset hmem)
    rw [finalList?]
    simp only [hbraces, ite_self, ih hrest]
    rfl

theorem takeFinal?_eq_none {tag : Text} {attrs : Attrs} (ht : '\x7b' ∉ t) :
    takeFinal? tag attrs t = none := by
  rw [takeFinal?]
  simp only [finalList?_eq_none ht]

theorem blockChange_eq {tag : Text} {attrs : Attrs} {text : Option Text} {children : List Element}
    (htext : '\x7b' ∉ text.getD []) (hchildren : ∀ e ∈ children, '\x7b' ∉ e.tail.getD []) :
    blockChange tag attrs text children = ⟨attrs, text, none⟩ := by
  rw [blockChange]
  split
  · rw [takeFinal?_eq_none htext]
  · next index _ =>
    have htail : '\x7b' ∉ (children[index]?.bind Element.tail).getD [] := by
      cases hchild : children[index]? with
      | none => simp
      | some e => exact hchildren e (List.mem_of_getElem? hchild)
    rw [takeFinal?_eq_none htail]
  · rfl

theorem inlineChange_eq {attrs : Attrs} {tail : Option Text} (htail : '\x7b' ∉ tail.getD []) :
    inlineChange attrs tail = (attrs, tail) := by
  rw [inlineChange, braces?_eq_none htail]

theorem not_mem_tail_of_innerTexts {x : Char} {l : List Element} (hl : x ∉ Element.innerTexts l) :
    ∀ e ∈ l, x ∉ e.tail.getD [] := by
  induction l with
  | nil => exact fun e he ↦ absurd he List.not_mem_nil
  | cons e l ih =>
    obtain ⟨tag, attrs, text, children, tail⟩ := e
    rw [Element.innerTexts] at hl
    intro e he
    rcases List.mem_cons.mp he with rfl | he
    · exact fun hx ↦ hl (List.mem_append_left _ (List.mem_append_right _ hx))
    · exact ih (fun hx ↦ hl (List.mem_append_right _ hx)) e he

mutual

theorem assigned_eq_setTail :
    ∀ (e : Element) (tail : Option Text), '\x7b' ∉ e.innerText → '\x7b' ∉ tail.getD [] →
      assigned tail e = e.setTail tail
  | .mk tag attrs text children _, tail => fun hinner htail ↦ by
    rw [Element.innerText] at hinner
    have htext : '\x7b' ∉ text.getD [] := fun hx ↦ hinner (List.mem_append_left _ hx)
    have hbelow : '\x7b' ∉ Element.innerTexts children :=
      fun hx ↦ hinner (List.mem_append_right _ hx)
    have hchildren := assignedAll_eq_self children hbelow
    rw [assigned]
    split
    · rw [blockChange_eq htext (not_mem_tail_of_innerTexts hbelow)]
      simp only [hchildren]
      rfl
    · simp only [inlineChange_eq htail, hchildren]
      rfl

theorem assignedAll_eq_self :
    ∀ l : List Element, '\x7b' ∉ Element.innerTexts l → assignedAll none l = l
  | [], _ => rfl
  | .mk tag attrs text children tail :: l, hl => by
    rw [Element.innerTexts] at hl
    have hinner : '\x7b' ∉ (Element.mk tag attrs text children tail).innerText :=
      fun hx ↦ hl (List.mem_append_left _ (List.mem_append_left _ hx))
    have htail : '\x7b' ∉ tail.getD [] :=
      fun hx ↦ hl (List.mem_append_left _ (List.mem_append_right _ hx))
    rw [assignedAll, assigned_eq_setTail _ tail hinner htail,
      assignedAll_eq_self l fun hx ↦ hl (List.mem_append_right _ hx)]
    rfl

end

/-- A document without an opening brace in its texts has no attribute lists. -/
theorem read_eq_self {root : Element} (hinner : '\x7b' ∉ root.innerText)
    (htail : '\x7b' ∉ root.tail.getD []) : read root = root := by
  rw [read, assigned_eq_setTail root root.tail hinner htail]
  cases root
  rfl

/-! ### Paragraph by paragraph -/

theorem finalList?_eq_none_of_line (ht : '\n' ∉ t) : finalList? true t = none := by
  induction t with
  | nil => rfl
  | cons c t ih =>
    have hc : (c == '\n') = false := by
      simpa using (ne_of_mem_of_not_mem List.mem_cons_self ht : c ≠ '\n')
    rw [finalList?]
    simp only [hc, if_true, Bool.false_eq_true, if_false, ih (mt (List.mem_cons_of_mem _) ht)]
    rfl

/-- A paragraph of one line keeps its braces. -/
theorem assigned_line (ht : '\n' ∉ t) :
    assigned none (.mk "p" [] (some t) [] none) = .mk "p" [] (some t) [] none := by
  have hblock : blockTags.contains ("p" : Text) = true := by decide
  have hown : (!(headingTags.contains ("p" : Text) || ("p" : Text) == "dt" ||
      ("p" : Text) == "td" || ("p" : Text) == "th")) = true := by decide
  have hnone : takeFinal? "p" [] t = none := by
    rw [takeFinal?]
    simp only [hown, finalList?_eq_none_of_line ht]
  have hspot : spotOf "p" (some t) [] = if isThere (some t) then some .text else none := rfl
  have hchange : blockChange "p" [] (some t) [] = ⟨[], some t, none⟩ := by
    rw [blockChange, hspot]
    cases isThere (some t) with
    | true => simp only [if_true, Option.getD_some, hnone]
    | false => rfl
  rw [assigned, if_pos hblock]
  simp only [hchange]
  rfl

theorem assignedAll_of_forall {l : List Element} (hl : ∀ e ∈ l, assigned e.tail e = e) :
    assignedAll none l = l := by
  induction l with
  | nil => rfl
  | cons e l ih =>
    obtain ⟨tag, attrs, text, children, tail⟩ := e
    rw [List.forall_mem_cons] at hl
    rw [assignedAll, ih hl.2]
    exact congrArg (· :: l) hl.1

/-- A document of elements that have no attribute lists has none. -/
theorem read_eq_self_of_forall {l : List Element} (hl : ∀ e ∈ l, assigned none e = e)
    (htails : ∀ e ∈ l, e.tail = none) :
    read (.mk "div" [] none l none) = .mk "div" [] none l none := by
  have hblock : blockTags.contains ("div" : Text) = true := by decide
  have hchildren : assignedAll none l = l :=
    assignedAll_of_forall fun e he ↦ by rw [htails e he, hl e he]
  have hchange := @blockChange_eq "div" [] none l (by simp) fun e he ↦ by simp [htails e he]
  rw [read, Element.tail, assigned, if_pos hblock]
  simp only [hchange, hchildren]

end ApiSite.Markup.Attributes
