import ApiSite.Markup.Document
import ApiSite.Proofs.Markup.Numbering

/-!
# The containers of alerts

An alert is written as a container: a line with three colons and a word opens it, and a line with
three colons closes it. Whether an alert is open is a single flag of the state, which opening sets
and closing clears. An alert inside of another one therefore clears the flag for both.

What becomes of the flag is the step that everything rests on (`Clears`): once some elements have
been written it is as before if the walk has come to no alert among them, and it is cleared if it
has (`clears_writeAll`). So `alerts_written` says of every alert that the walk comes to: its
container is opened by a line of its own, and closed by one exactly if the walk comes to no other
alert inside of it. Otherwise the end tag of a `div` is written in its place, which nothing opened.

That a line is a line of its own needs the line feeds at the end of the output to be those that the
output counts (`Output.IsSound`), which holds of all that is written from the beginning
(`Output.Grows.isSound`).
-/

set_option autoImplicit false

namespace ApiSite.Markup.Writer

variable {style : Style} {rawHtml : List Text} {place : Place} {s s' t t' : State} {u : Text}
  {e : Element} {es ahead before : List Element} {around : List Stop} {o o' : Output}
  {c c' : Cursor} {pos : Position}

/-! ### Lines of their own -/

/-- What is written next stands at the beginning of a line. -/
def AtLineStart (t : Text) : Prop := t = [] ∨ t.getLast? = some '\n'

/-- A text goes on with a line of its own, behind line feeds where it needs them. -/
def AddsLine (line t t' : Text) : Prop :=
  ∃ k, AtLineStart (t ++ List.replicate k '\n') ∧
    t' = t ++ List.replicate k '\n' ++ (line ++ ['\n'])

/-- An output counts the line feeds at its end. -/
def Output.IsSound (o : Output) : Prop := o.newlines = Output.finalNewlines o.text

theorem Output.finalNewlines_append_replicate (t : Text) (k : Nat) :
    finalNewlines (t ++ List.replicate k '\n') = finalNewlines t + k := by
  rw [finalNewlines, List.reverse_append, List.reverse_replicate, Text.countStart,
    List.takeWhile_append_of_pos (by simp), List.length_append, List.length_replicate, Nat.add_comm]
  rfl

theorem Output.finalNewlines_append (ht : ∃ c ∈ u, c ≠ '\n') (t : Text) :
    finalNewlines (t ++ u) = finalNewlines u := by
  have hlength : (u.reverse.takeWhile (· == '\n')).length ≠ u.reverse.length := by
    intro hlength
    obtain ⟨c, hc, hne⟩ := ht
    have hall := List.takeWhile_eq_self_iff.mp
      ((List.takeWhile_prefix _).eq_of_length hlength) c (List.mem_reverse.mpr hc)
    exact hne (by simpa using hall)
  rw [finalNewlines, finalNewlines, Text.countStart, Text.countStart, List.reverse_append,
    List.takeWhile_append, if_neg hlength]

theorem Output.IsSound.write (h : o.IsSound) (t : Text) : (o.write t).IsSound := by
  rw [IsSound, text_write, Output.write]
  split_ifs with hempty hall
  · rw [List.isEmpty_iff.mp hempty, List.append_nil]
    exact h
  · have ht : t = List.replicate t.length '\n' :=
      List.eq_replicate_iff.mpr ⟨rfl, by simpa using hall⟩
    have hcount := finalNewlines_append_replicate o.text t.length
    rw [← ht] at hcount
    exact (congrArg (· + t.length) h).trans hcount.symm
  · exact (finalNewlines_append (by simpa using hall) o.text).symm

theorem Output.Grows.isSound (h : o.Grows o') (ho : o.IsSound) : o'.IsSound := by
  induction h with
  | refl => exact ho
  | write _ t ih => exact ih.write t

theorem atLineStart_of_finalNewlines (h : 0 < Output.finalNewlines u) : AtLineStart u := by
  obtain rfl | ⟨before, last, rfl⟩ := List.eq_nil_or_concat u
  · exact .inl rfl
  · rw [List.concat_eq_append] at h ⊢
    refine .inr (List.getLast?_concat.trans (congrArg some ?_))
    by_contra hlast
    simp [Output.finalNewlines, Text.countStart, hlast] at h

/-- A line behind a blank one is a line of its own. -/
theorem Output.IsSound.addsLine_blankLine (h : o.IsSound) (line : Text) :
    AddsLine line o.text (o.blankLine.write (line ++ ['\n'])).text := by
  rw [text_write, blankLine]
  split_ifs with hempty
  · have htext : o.text = [] := by
      rw [Output.text, List.isEmpty_iff.mp hempty]
      rfl
    exact ⟨0, .inl (by simp [htext]), by simp⟩
  · refine ⟨2 - o.newlines, atLineStart_of_finalNewlines ?_, by rw [text_write]⟩
    rw [finalNewlines_append_replicate, ← h]
    omega

theorem Output.exists_text_blankLine (o : Output) :
    ∃ k, o.blankLine.text = o.text ++ List.replicate k '\n' := by
  rw [blankLine]
  split
  · exact ⟨0, (List.append_nil _).symm⟩
  · exact ⟨2 - o.newlines, text_write⟩

/-- A line where the one before has been ended is a line of its own. -/
theorem Output.IsSound.addsLine_endLine (h : o.IsSound) (line : Text) :
    AddsLine line o.text (o.endLine.write (line ++ ['\n'])).text := by
  rw [text_write, endLine]
  split_ifs with hends
  · exact ⟨1, atLineStart_of_finalNewlines (by rw [finalNewlines_append_replicate]; omega),
      by rw [text_write]; rfl⟩
  · refine ⟨0, atLineStart_of_finalNewlines ?_, by simp⟩
    rw [finalNewlines_append_replicate, ← h]
    omega

/-! ### The flag -/

/-- An element is written as an alert. -/
def IsAlert (e : Element) : Prop := Kind.of e.tag e.attrs = .alert

theorem IsAlert.kind_eq (h : IsAlert e) : Kind.of e.tag e.attrs = .alert := h

/-- An alert is not taken along as a whole. -/
theorem IsAlert.not_consumed (h : IsAlert e) : openElement style place e s ≠ .ok (s', false) := by
  intro hopen
  have hkinds := openElement_eq_ok_false_iff.mp ⟨s', hopen⟩
  rw [h.kind_eq] at hkinds
  exact hkinds

/-- The walk comes to an alert from a cursor on. -/
def Meets (style : Style) (rawHtml : List Text) (c : Cursor) : Prop :=
  ∃ c' e ahead, Reaches style rawHtml c c' ∧ c'.position.ahead = e :: ahead ∧ IsAlert e

theorem Meets.ahead_ne_nil (h : Meets style rawHtml c) : c.position.ahead ≠ [] := by
  obtain ⟨c', e, ahead, hreach, hahead, -⟩ := h
  rcases Relation.ReflTransGen.cases_head hreach with rfl | ⟨c'', hstep, -⟩
  · rw [hahead]
    exact List.cons_ne_nil e ahead
  · cases hstep <;> exact List.cons_ne_nil _ _

theorem Meets.of_step (h : Meets style rawHtml c') (hstep : c.Step style rawHtml c') :
    Meets style rawHtml c := by
  obtain ⟨c'', e, ahead, hreach, hmeet⟩ := h
  exact ⟨c'', e, ahead, hreach.head hstep, hmeet⟩

/-- The next element is an alert, or the walk comes to one inside of it. -/
def MeetsWithin (style : Style) (rawHtml : List Text) (around : List Stop) (before : List Element)
    (place : Place) (e : Element) (s : State) : Prop :=
  IsAlert e ∨ ∃ t, openElement style place e s = .ok (t, true) ∧
    Meets style rawHtml (.inside style rawHtml around before e place t)

/-- The walk comes to an alert within the next element, or behind it. -/
theorem meets_cons_iff : Meets style rawHtml ⟨⟨around, before, e :: ahead⟩, place, s⟩ ↔
    MeetsWithin style rawHtml around before place e s ∨
      ∃ t, writeElement style rawHtml place e s = .ok t ∧
        Meets style rawHtml (.past style rawHtml around before e ahead place t) := by
  constructor
  · rintro ⟨c', d, rest, hreach, hahead, halert⟩
    rcases Relation.ReflTransGen.cases_head hreach with rfl | ⟨c'', hstep, hreach⟩
    · cases hahead
      exact .inl (.inl halert)
    · cases hstep with
      | inside hopen => exact .inl (.inr ⟨_, hopen, c', d, rest, hreach, hahead, halert⟩)
      | past hwrite => exact .inr ⟨_, hwrite, c', d, rest, hreach, hahead, halert⟩
  · rintro ((halert | ⟨t, hopen, hmeets⟩) | ⟨t, hwrite, hmeets⟩)
    · exact ⟨_, e, ahead, .refl, rfl, halert⟩
    · exact hmeets.of_step (.inside hopen)
    · exact hmeets.of_step (.past hwrite)

theorem meets_cons_iff_of_writeElement (hwrite : writeElement style rawHtml place e s = .ok t) :
    Meets style rawHtml ⟨⟨around, before, e :: ahead⟩, place, s⟩ ↔
      MeetsWithin style rawHtml around before place e s ∨
        Meets style rawHtml (.past style rawHtml around before e ahead place t) := by
  simp only [meets_cons_iff, hwrite, Except.ok.injEq, exists_eq_left']

theorem meetsWithin_iff (halert : ¬IsAlert e)
    (hopen : openElement style place e s = .ok (t, true)) :
    MeetsWithin style rawHtml around before place e s ↔
      Meets style rawHtml (.inside style rawHtml around before e place t) := by
  simp only [MeetsWithin, halert, false_or, hopen, Except.ok.injEq, Prod.mk.injEq, and_true,
    exists_eq_left']

/-- The flag is cleared if an alert was met, and as before if not. -/
structure Clears (meets : Prop) (s s' : State) : Prop where
  met : meets → s'.inAlert = false
  unmet : ¬meets → s'.inAlert = s.inAlert

theorem State.Keeps.clears (h : s.Keeps s') : Clears False s s' := ⟨False.elim, fun _ ↦ h.inAlert⟩

theorem Clears.trans {m m' : Prop} (h : Clears m s t) (h' : Clears m' t s') :
    Clears (m ∨ m') s s' := by
  refine ⟨?_, fun hunmet ↦ ?_⟩
  · intro hmet
    by_cases hm' : m'
    · exact h'.met hm'
    · exact (h'.unmet hm').trans (h.met (hmet.resolve_right hm'))
  · exact (h'.unmet (mt Or.inr hunmet)).trans (h.unmet (mt Or.inl hunmet))

theorem Clears.congr {m m' : Prop} (h : Clears m s s') (hm : m' ↔ m) : Clears m' s s' :=
  ⟨fun h' ↦ h.met (hm.mp h'), fun h' ↦ h.unmet (mt hm.mpr h')⟩

theorem inAlert_openElement {flag : Bool} (halert : ¬IsAlert e)
    (hopen : openElement style place e s = .ok (t, flag)) : t.inAlert = s.inAlert := by
  have hflag := (keeps_openElement hopen).inAlert
  rw [State.opened] at hflag
  cases hkind : Kind.of e.tag e.attrs <;> rw [hkind] at hflag
  case alert => exact absurd hkind halert
  case numberedList => cases hfirst : beforeFirst e.attrs <;> rw [hfirst] at hflag <;> exact hflag
  all_goals exact hflag

theorem inAlert_closeElement (halert : ¬IsAlert e) :
    (closeElement style place e s).inAlert = s.inAlert := by
  have hflag := (@keeps_closeElement style place e s).inAlert
  rw [State.closed] at hflag
  cases hkind : Kind.of e.tag e.attrs <;> rw [hkind] at hflag
  case alert => exact absurd hkind halert
  all_goals exact hflag

/-- Closing an alert leaves the flag cleared, whether it was or not. -/
theorem IsAlert.inAlert_closeElement (halert : IsAlert e) :
    (closeElement style place e s).inAlert = false := by
  have hflag := (@keeps_closeElement style place e s).inAlert
  rw [State.closed, halert.kind_eq] at hflag
  exact hflag

/-- Once elements have been written, the flag is as before or cleared, as no alert was met among
them or one was. -/
theorem clears_writeAll (hwrite : writeAll style rawHtml place es s = .ok s')
    (around : List Stop) (before : List Element) :
    Clears (Meets style rawHtml ⟨⟨around, before, es⟩, place, s⟩) s s' := by
  refine writeAll_induction
    (P := fun place e s s' ↦ ∀ around before,
      Clears (MeetsWithin style rawHtml around before place e s) s s')
    (Q := fun place es s s' ↦ ∀ around before,
      Clears (Meets style rawHtml ⟨⟨around, before, es⟩, place, s⟩) s s')
    ?_ ?_ ?_ ?_ es place s s' hwrite around before
  · intro place e s s' hopen around before
    have hkeeps := keeps_openElement hopen
    rw [opened_of_consumed hopen] at hkeeps
    refine hkeeps.clears.congr (iff_of_false ?_ id)
    rintro (halert | ⟨t, hopen', -⟩)
    · exact halert.not_consumed hopen
    · rw [hopen] at hopen'
      cases hopen'
  · intro place e s t t' hopen hinside around before
    by_cases halert : IsAlert e
    · exact ⟨fun _ ↦ halert.inAlert_closeElement, fun hunmet ↦ absurd (.inl halert) hunmet⟩
    · have hflag : (writeText? style rawHtml e.text t).inAlert = s.inAlert :=
        (keeps_writeText? e.text t).inAlert.trans (inAlert_openElement halert hopen)
      have hwithin := @meetsWithin_iff style rawHtml place s t e before around halert hopen
      have hinside := hinside (⟨before, e⟩ :: around) []
      exact ⟨fun hmet ↦ (inAlert_closeElement halert).trans (hinside.met (hwithin.mp hmet)),
        fun hunmet ↦ (inAlert_closeElement halert).trans
          ((hinside.unmet (mt hwithin.mpr hunmet)).trans hflag)⟩
  · intro place s around before
    exact (State.Keeps.refl s).clears.congr (iff_of_false (fun hmet ↦ hmet.ahead_ne_nil rfl) id)
  · intro place e es s t s' hone hhere hrest around before
    have htail : t.Keeps (writeText? style rawHtml e.tail t) := keeps_writeText? _ _
    have hbehind := htail.clears.trans (hrest around (before ++ [e]))
    refine ((hhere around before).trans hbehind).congr ?_
    rw [meets_cons_iff_of_writeElement hone, false_or]

/-! ### Opening and closing a container -/

/-- The end tag of a `div`, obeyed or shown. -/
def divEnd (style : Style) : Text :=
  if style.safeTags.contains "div" then "</div>" else "&lt;/div&gt;"

theorem IsAlert.tag_eq (h : IsAlert e) : e.tag = "div" := by
  have hkind := h.kind_eq
  rw [Kind.of] at hkind
  split at hkind
  · cases hkind
  · iterate 19 replace hkind := eq_of_ite_eq (by decide) hkind
    by_contra htag
    have hcond : (e.tag == ("div" : Text)) = false := by simpa using htag
    rw [hcond, Bool.false_and, if_neg Bool.false_ne_true] at hkind
    cases hkind

/-- The line that opens the container of an alert. -/
def openingLine (e : Element) : Text :=
  ":::" ++ alertContainer ((Element.lookup e.attrs "class").getD [])

theorem IsAlert.opening (h : IsAlert e) (hs : s.output.IsSound)
    (hopen : openElement style place e s = .ok (t, true)) :
    AddsLine (openingLine e) s.output.text t.output.text ∧ t.inAlert = true := by
  simp only [openElement, h.kind_eq] at hopen
  cases hopen
  exact ⟨hs.addsLine_blankLine (openingLine e), rfl⟩

/-- While the flag is set, an alert is closed by a line of its own. -/
theorem IsAlert.closing (h : IsAlert e) (hs : s.output.IsSound) (hflag : s.inAlert = true) :
    ∃ u k, AddsLine ":::" s.output.text u ∧
      (closeElement style place e s).output.text = u ++ List.replicate k '\n' := by
  obtain ⟨k, hblank⟩ := (s.output.endLine.write (":::" ++ ['\n'])).exists_text_blankLine
  refine ⟨_, k, hs.addsLine_endLine ":::", ?_⟩
  simp only [closeElement, h.kind_eq, hflag, if_true]
  exact hblank

/-- Once the flag has been cleared, an alert is closed as a `div`. -/
theorem IsAlert.closing_cleared (h : IsAlert e) (hchildren : e.children ≠ [])
    (hflag : s.inAlert = false) :
    ∃ ending, closeElement style place e s = (s.put (divEnd style)).write ending ∧
      ∀ c ∈ ending, c = '\n' := by
  have hclose : closeElement style place e s = closeTag style e s := by
    simp only [closeElement, h.kind_eq, hflag, Bool.false_eq_true, if_false]
  have hvoid : isVoid e.text e.children = false := by
    rw [isVoid, List.isEmpty_eq_false_iff.mpr hchildren, Bool.false_and]
  rw [hclose, closeTag, hvoid, if_neg Bool.false_ne_true, h.tag_eq, divEnd]
  split
  · cases s.cell.isNone && lineTags.contains ("div" : Text) with
    | true => exact ⟨['\n'], rfl, by simp⟩
    | false => exact ⟨[], rfl, by simp⟩
  · exact ⟨[], rfl, by simp⟩

/-! ### The page -/

/-- How the container of an alert is written: from the state `s`, by the opening to `t`, by what the
alert holds to `t'`, and by the closing to `s'`. -/
structure WritesContainer (style : Style) (rawHtml : List Text) (e : Element) (inside : Cursor)
    (s t t' s' : State) : Prop where
  opening : AddsLine (openingLine e) s.output.text t.output.text
  holds : inside.Writes style rawHtml t'
  closed : ¬Meets style rawHtml inside → ∃ u k, AddsLine ":::" t'.output.text u ∧
    s'.output.text = u ++ List.replicate k '\n'
  unclosed : Meets style rawHtml inside → ∃ ending, s' = (t'.put (divEnd style)).write ending ∧
    ∀ c ∈ ending, c = '\n'

theorem IsAlert.writesContainer (h : IsAlert e) (hs : s.output.IsSound)
    (hwrite : writeElement style rawHtml place e s = .ok s') (around : List Stop)
    (before : List Element) :
    ∃ t t', openElement style place e s = .ok (t, true) ∧
      WritesContainer style rawHtml e (.inside style rawHtml around before e place t)
        s t t' s' := by
  obtain ⟨t, t', hopen, hinside, rfl⟩ :=
    (writeElement_eq_ok_iff.mp hwrite).resolve_left h.not_consumed
  obtain ⟨hline, hflag⟩ := h.opening hs hopen
  have htext : t.Keeps (writeText? style rawHtml e.text t) := keeps_writeText? _ _
  have hsound : t'.output.IsSound :=
    ((grows_openElement hopen).trans (htext.output.trans (grows_writeAll hinside))).isSound hs
  have hclears := clears_writeAll hinside (⟨before, e⟩ :: around) []
  refine ⟨t, t', hopen, hline, hinside, fun hunmet ↦ ?_, fun hmet ↦ ?_⟩
  · exact h.closing hsound ((hclears.unmet hunmet).trans (htext.inAlert.trans hflag))
  · exact h.closing_cleared hmet.ahead_ne_nil (hclears.met hmet)

/-- **A container is closed exactly if no alert was met in it.** For every tree that is written, and
every alert in it: unless an element around it is taken along as a whole when it is opened, the walk
comes to the alert and opens its container with a line of its own. What the alert holds is written
then. If the walk comes to no other alert in it, the container is closed by a line of its own, and
if it does, the end tag of a `div` is written and the container stays open. -/
theorem alerts_written {root : Element} {out : Text} (hwrite : write style root rawHtml = .ok out) :
    ∃ page, out = Text.stripEnd page ∧
      ∀ (around : List Stop) (before : List Element) (e : Element) (ahead : List Element),
        let position := Position.mk around before (e :: ahead)
        (Position.first root).LeadsTo position →
        ¬(start style rawHtml root).Skips style rawHtml position → IsAlert e →
        ∃ place s t t' s', Reaches style rawHtml (start style rawHtml root) ⟨position, place, s⟩ ∧
          openElement style place e s = .ok (t, true) ∧
          writeElement style rawHtml place e s = .ok s' ∧
          WritesContainer style rawHtml e (.inside style rawHtml around before e place t)
            s t t' s' ∧
          s'.output.text <+: page := by
  obtain ⟨final, hfinal, hout⟩ := write_eq_ok_iff.mp hwrite
  refine ⟨final.output.text, hout.symm, ?_⟩
  intro around before e ahead position hleads hskips halert
  obtain ⟨⟨_, place, s⟩, hreach, rfl⟩ := (reaches_or_skips hleads hfinal).resolve_right hskips
  obtain ⟨u, hwrites, hgrows⟩ := hreach.writes hfinal
  obtain ⟨s', hone, hrest⟩ := writeAll_cons_eq_ok_iff.mp hwrites
  have hsound : s.output.IsSound := by
    have hempty : ({} : State).output.IsSound := rfl
    exact ((keeps_writeText? root.text {}).output.trans hreach.grows).isSound hempty
  obtain ⟨t, t', hopen, hcontainer⟩ := halert.writesContainer hsound hone around before
  exact ⟨place, s, t, t', s', hreach, hopen, hone, hcontainer,
    (((keeps_writeText? _ _).output.trans (grows_writeAll hrest)).trans hgrows).isPrefix⟩

/-- Markdown that is read as an alert with another one in it. -/
def nestedAlerts : Text := "> [!NOTE]\n> a\n>\n> > [!TIP]\n> > b"

/-- The container of the outer alert is opened and not closed. -/
theorem alerts_written_nested :
    let d := Document.parse none nestedAlerts
    let style : Style := ⟨["div".toList], "dart"⟩
    let out : Text := ":::info\n\na\n\n:::tip\n\nb\n\n:::\n\n</div>"
    write style d.root d.rawHtml = .ok out ∧
      ∃ e ahead place s t t' s', d.root.children = e :: ahead ∧
        Reaches style d.rawHtml (start style d.rawHtml d.root) ⟨⟨[], [], e :: ahead⟩, place, s⟩ ∧
        WritesContainer style d.rawHtml e (.inside style d.rawHtml [] [] e place t) s t t' s' := by
  intro d style out
  have hwrite : write style d.root d.rawHtml = .ok out := by decide +kernel
  have hkinds : (d.root.children.map fun e ↦ Kind.of e.tag e.attrs) = [.alert] := by decide +kernel
  obtain ⟨e, ahead, hchildren⟩ : ∃ e ahead, d.root.children = e :: ahead := by
    refine List.exists_cons_of_ne_nil fun hnil ↦ ?_
    rw [hnil] at hkinds
    cases hkinds
  rw [hchildren] at hkinds
  have halert : IsAlert e := (List.cons.inj hkinds).1
  have hleads : (Position.first d.root).LeadsTo ⟨[], [], e :: ahead⟩ := by
    rw [Position.first, hchildren]
  obtain ⟨page, -, halerts⟩ := alerts_written hwrite
  obtain ⟨place, s, t, t', s', hreach, -, -, hcontainer, -⟩ :=
    halerts [] [] e ahead hleads (not_skips fun stop hstop ↦ absurd hstop List.not_mem_nil) halert
  exact ⟨hwrite, e, ahead, place, s, t, t', s', hchildren, hreach, hcontainer⟩

end ApiSite.Markup.Writer
