import ApiSite.Markup.Writer
import ApiSite.Proofs.Text

/-!
# Code spans read back

A span of code begins with a run of backticks and ends with the next run of exactly as many. What
is between them is the code, less a space on each side where there is one on both and the code is
not of spaces only. `readSpan?` is this rule.

Code is written between single backticks, or between two and a space where it holds a backtick.
`readSpan?_writeElement` says for which code this is read back: the span is the whole of what is
written, and holds the code, exactly if the code is not empty, has no run of two backticks, and
does not begin and end with spaces that would be taken for those of the span (`FitsSpan`). A run of
two backticks ends the span before the code does, and is the only thing that lets a part of the
code out of it.

The reading follows the text character by character. Where the text goes on with a character that
is no backtick, what stands before it is read on its own (`closeSpan?_append_cons`), and the reading
of a text finds no end exactly if the text has no run of the length it looks for
(`closeSpan?_eq_none_iff`).
-/

set_option autoImplicit false

namespace ApiSite.Markup.Writer

variable {n : Nat} {c : Char} {inRun : Bool} {t body code : Text}

/-! ### Reading a span -/

/-- How many backticks stand in front. -/
abbrev ticksOf (t : Text) : Nat := Text.countStart (· == '\x60') t

/-- What stands before the first run of exactly `n` backticks, and what stands after it. The flag
says whether a backtick stands before the text. -/
def closeSpan? (n : Nat) : Bool → Text → Option (Text × Text)
  | _, [] => none
  | inRun, c :: t =>
    if !inRun && ticksOf (c :: t) == n then some ([], (c :: t).drop n)
    else (closeSpan? n (c == '\x60') t).map fun (before, after) => (c :: before, after)

/-- Whether a code has a space on each side that a span may have put there. -/
def IsPadded (t : Text) : Prop :=
  t.head? = some ' ' ∧ t.getLast? = some ' ' ∧ ∃ c ∈ t, c ≠ ' '

instance : Decidable (IsPadded t) :=
  inferInstanceAs (Decidable (_ ∧ _ ∧ ∃ c ∈ t, c ≠ ' '))

/-- The inside of a span without a space on each side, where there is one on both and the inside is
not of spaces only. -/
def unpad (t : Text) : Text := if IsPadded t then t.tail.dropLast else t

/-- The code of the span that a text begins with, and what stands after the span. -/
def readSpan? (t : Text) : Option (Text × Text) :=
  if ticksOf t = 0 then none
  else (closeSpan? (ticksOf t) false (t.drop (ticksOf t))).map fun (inside, after) =>
    (unpad inside, after)

/-! ### Runs of backticks -/

/-- Somewhere in a text stand exactly `n` backticks in a row. -/
def HasTickRun (n : Nat) (t : Text) : Prop :=
  ∃ before after, t = before ++ (List.replicate n '\x60' ++ after) ∧
    before.getLast? ≠ some '\x60' ∧ after.head? ≠ some '\x60'

/-- Whether a backtick stands at the end, or before an empty text. -/
def endsInTick (inRun : Bool) (t : Text) : Bool := (t.getLast?.map (· == '\x60')).getD inRun

@[simp]
theorem endsInTick_nil : endsInTick inRun [] = inRun := rfl

@[simp]
theorem endsInTick_cons : endsInTick inRun (c :: t) = endsInTick (c == '\x60') t := by
  rw [endsInTick, List.getLast?_cons]
  cases h : t.getLast? <;> simp [endsInTick, h]

theorem endsInTick_false_iff : endsInTick false t = false ↔ t.getLast? ≠ some '\x60' := by
  cases h : t.getLast? <;> simp [endsInTick, h]

theorem ticksOf_cons_of_ne (hc : c ≠ '\x60') : ticksOf (c :: t) = 0 := by
  simp [ticksOf, Text.countStart, hc]

theorem ticksOf_replicate_append (h : t.head? ≠ some '\x60') :
    ticksOf (List.replicate n '\x60' ++ t) = n := by
  have htake : (List.replicate n '\x60' ++ t).takeWhile (· == '\x60') =
      List.replicate n '\x60' :=
    Text.takeWhile_append_of_head? (by simp) fun c hc ↦
      beq_eq_false_iff_ne.mpr fun heq ↦ h (heq ▸ hc)
  rw [ticksOf, Text.countStart, htake, List.length_replicate]

theorem eq_replicate_ticksOf_append (t : Text) :
    ∃ after, t = List.replicate (ticksOf t) '\x60' ++ after ∧ after.head? ≠ some '\x60' := by
  refine ⟨t.dropWhile (· == '\x60'), ?_, fun h ↦ ?_⟩
  · have htake : t.takeWhile (· == '\x60') = List.replicate (ticksOf t) '\x60' :=
      List.eq_replicate_iff.mpr ⟨rfl, fun c hc ↦ by simpa using List.mem_takeWhile_imp hc⟩
    rw [← htake, List.takeWhile_append_dropWhile]
  · have hnot := List.head?_dropWhile_not (· == '\x60') t
    rw [h] at hnot
    exact Bool.false_ne_true hnot.symm

/-- The backticks in front are those of a text that goes on with another character. -/
theorem ticksOf_append_cons (hc : c ≠ '\x60') : ticksOf (body ++ c :: t) = ticksOf body := by
  obtain ⟨after, hbody, hafter⟩ := eq_replicate_ticksOf_append body
  generalize ticksOf body = n at hbody ⊢
  rw [hbody, List.append_assoc]
  refine ticksOf_replicate_append ?_
  cases after with
  | nil => simpa using hc
  | cons d after => exact hafter

/-- The reading goes past a character that is no backtick if it finds no end before it. -/
theorem closeSpan?_append_cons (hn : n ≠ 0) (hc : c ≠ '\x60') :
    closeSpan? n inRun (body ++ c :: t) =
      match closeSpan? n inRun body with
      | some (before, after) => some (before, after ++ c :: t)
      | none => (closeSpan? n false t).map fun (before, after) => (body ++ c :: before, after) := by
  induction body generalizing inRun with
  | nil =>
    have hzero : (ticksOf (c :: t) == n) = false := by
      rw [ticksOf_cons_of_ne hc]
      simpa using hn.symm
    have htick : (c == '\x60') = false := by simpa using hc
    rw [List.nil_append, closeSpan?, closeSpan?, hzero, Bool.and_false, htick]
    rfl
  | cons d body ih =>
    have hticks : ticksOf (d :: body ++ c :: t) = ticksOf (d :: body) := ticksOf_append_cons hc
    rw [List.cons_append] at hticks ⊢
    rw [closeSpan?, closeSpan?, hticks]
    split_ifs with hend
    · have hlength : n ≤ (d :: body).length := by
        rw [Bool.and_eq_true, beq_iff_eq] at hend
        exact hend.2 ▸ (List.takeWhile_sublist _).length_le
      have hdrop : (d :: (body ++ c :: t)).drop n = (d :: body).drop n ++ c :: t :=
        List.drop_append_of_le_length hlength
      rw [hdrop]
    · rw [ih]
      cases closeSpan? n (d == '\x60') body with
      | none => cases closeSpan? n false t <;> rfl
      | some found => rfl

theorem closeSpan?_eq_none_iff_forall (hn : n ≠ 0) :
    closeSpan? n inRun t = none ↔ ∀ before after,
      t = before ++ (List.replicate n '\x60' ++ after) → endsInTick inRun before = false →
        after.head? = some '\x60' := by
  induction t generalizing inRun with
  | nil =>
    refine iff_of_true rfl fun before after heq ↦ ?_
    simp [hn] at heq
  | cons c t ih =>
    rw [closeSpan?]
    split_ifs with hend
    · rw [Bool.and_eq_true, Bool.not_eq_true', beq_iff_eq] at hend
      obtain ⟨after, heq, hafter⟩ := eq_replicate_ticksOf_append (c :: t)
      rw [hend.2] at heq
      exact iff_of_false nofun fun hall ↦ hafter (hall [] after heq hend.1)
    · rw [Option.map_eq_none_iff, ih]
      constructor
      · rintro hall (_ | ⟨d, before⟩) after heq hbefore
        -- a run in front would have been found
        · by_contra hafter
          refine hend ?_
          have hfree : inRun = false := hbefore
          rw [heq, List.nil_append, ticksOf_replicate_append hafter, hfree]
          exact beq_self_eq_true n
        · rw [List.cons_append, List.cons.injEq] at heq
          obtain ⟨rfl, heq⟩ := heq
          exact hall before after heq (by simpa using hbefore)
      · intro hall before after heq hbefore
        exact hall (c :: before) after (congrArg (c :: ·) heq) (by simpa using hbefore)

/-- A span of `n` backticks is not ended exactly by a text without a run of as many. -/
theorem closeSpan?_eq_none_iff (hn : n ≠ 0) : closeSpan? n false t = none ↔ ¬HasTickRun n t := by
  rw [closeSpan?_eq_none_iff_forall hn, HasTickRun]
  simp only [endsInTick_false_iff, not_exists, not_and, not_not]

theorem mem_of_hasTickRun (hn : n ≠ 0) (h : HasTickRun n t) : '\x60' ∈ t := by
  obtain ⟨before, after, rfl, -, -⟩ := h
  simp [hn]

/-! ### The written spans -/

theorem unpad_eq_self_iff : unpad t = t ↔ ¬IsPadded t := by
  rw [unpad]
  split_ifs with h
  · refine iff_of_false (fun heq ↦ ?_) (not_not_intro h)
    have hlength := congrArg List.length heq
    rw [List.length_dropLast, List.length_tail] at hlength
    have hne : t.length ≠ 0 := fun hzero ↦ by simp [List.length_eq_zero_iff.mp hzero, IsPadded] at h
    omega
  · exact iff_of_true rfl h

theorem unpad_padded (h : ∃ c ∈ code, c ≠ ' ') : unpad (' ' :: code ++ [' ']) = code := by
  have hpadded : IsPadded (' ' :: code ++ [' ']) := by
    obtain ⟨c, hc, hne⟩ := h
    exact ⟨rfl, List.getLast?_concat, c, by simp [hc], hne⟩
  rw [unpad, if_pos hpadded, List.cons_append, List.tail_cons, List.dropLast_concat]

/-- Between two backticks and spaces, a code ends at its first run of two backticks. -/
theorem readSpan?_double (htick : '\x60' ∈ code) :
    readSpan? ("\x60\x60 " ++ code ++ " \x60\x60") =
      match closeSpan? 2 false code with
      | some (before, after) => some (unpad (' ' :: before), after ++ " \x60\x60")
      | none => some (code, []) := by
  have hticks : ticksOf ("\x60\x60 " ++ code ++ " \x60\x60") = 2 := rfl
  have hopening : closeSpan? 2 false (' ' :: (code ++ ' ' :: "\x60\x60")) =
      (closeSpan? 2 false (code ++ ' ' :: "\x60\x60")).map fun (before, after) =>
        (' ' :: before, after) := rfl
  have hdrop : ("\x60\x60 " ++ code ++ " \x60\x60").drop 2 = ' ' :: (code ++ ' ' :: "\x60\x60") :=
    rfl
  rw [readSpan?, hticks, if_neg (by decide), hdrop, hopening,
    closeSpan?_append_cons (by decide) (by decide)]
  cases closeSpan? 2 false code with
  | some found => rfl
  | none => exact congrArg (fun inside ↦ some (inside, [])) (unpad_padded ⟨_, htick, by decide⟩)

/-- Between single backticks, a code without backticks is read up to the last one. -/
theorem readSpan?_single (hne : code ≠ []) (htick : '\x60' ∉ code) :
    readSpan? ('\x60' :: code ++ ['\x60']) = some (unpad code, []) := by
  obtain rfl | ⟨before, last, rfl⟩ := List.eq_nil_or_concat code
  · exact absurd rfl hne
  · rw [List.concat_eq_append] at *
    have hlast : last ≠ '\x60' := fun heq ↦ htick (heq ▸ List.mem_append_right _ List.mem_cons_self)
    have hbefore : closeSpan? 1 false before = none :=
      (closeSpan?_eq_none_iff (by decide)).mpr fun hrun ↦
        htick (List.mem_append_left _ (mem_of_hasTickRun (by decide) hrun))
    have hhead : (before ++ [last] ++ ['\x60']).head? ≠ some '\x60' := by
      cases before with
      | nil => simpa using hlast
      | cons d before =>
        have hd : d ≠ '\x60' := fun heq ↦ htick (heq ▸ List.mem_cons_self)
        simpa using hd
    have hticks : ticksOf ('\x60' :: (before ++ [last]) ++ ['\x60']) = 1 :=
      ticksOf_replicate_append (n := 1) hhead
    have hdrop : ('\x60' :: (before ++ [last]) ++ ['\x60']).drop 1 = before ++ last :: ['\x60'] :=
      List.append_assoc before [last] ['\x60']
    rw [readSpan?, hticks, if_neg (by decide), hdrop, closeSpan?_append_cons (by decide) hlast,
      hbefore]
    rfl

/-- Code that the span written for it holds. -/
structure FitsSpan (code : Text) : Prop where
  ne_nil : code ≠ []
  run : ¬HasTickRun 2 code
  spaces : '\x60' ∈ code ∨ ¬IsPadded code

/-- What is written for a code is a span that holds the code, if the code fits. -/
theorem readSpan?_codeSpan_eq_iff (code : Text) :
    readSpan? (codeSpan code) = some (code, []) ↔ FitsSpan code := by
  by_cases htick : '\x60' ∈ code
  · rw [codeSpan, if_pos (by simpa using htick), readSpan?_double htick]
    cases hclose : closeSpan? 2 false code with
    | none =>
      exact iff_of_true rfl
        ⟨List.ne_nil_of_mem htick, (closeSpan?_eq_none_iff (by decide)).mp hclose, .inl htick⟩
    | some found =>
      refine iff_of_false (fun heq ↦ ?_) fun hfits ↦ ?_
      · simp at heq
      · rw [(closeSpan?_eq_none_iff (by decide)).mpr hfits.run] at hclose
        cases hclose
  · rw [codeSpan, if_neg (by simpa using htick)]
    by_cases hnil : code = []
    · rw [hnil]
      exact iff_of_false (by decide) fun hfits ↦ hfits.ne_nil rfl
    · rw [readSpan?_single hnil htick, Option.some_inj, Prod.mk.injEq, and_iff_left rfl,
        unpad_eq_self_iff]
      exact ⟨fun h ↦ ⟨hnil, mt (mem_of_hasTickRun (by decide)) htick, .inr h⟩,
        fun hfits ↦ hfits.spaces.resolve_left htick⟩

/-- A part of the code stands after the span exactly if the code has a run of two backticks. -/
theorem exists_readSpan?_codeSpan_iff (code : Text) :
    (∃ inside after, readSpan? (codeSpan code) = some (inside, after) ∧ after ≠ []) ↔
      HasTickRun 2 code := by
  by_cases htick : '\x60' ∈ code
  · rw [← not_iff_not, ← closeSpan?_eq_none_iff (by decide), codeSpan,
      if_pos (by simpa using htick), readSpan?_double htick]
    cases closeSpan? 2 false code <;> simp
  · rw [codeSpan, if_neg (by simpa using htick)]
    refine iff_of_false ?_ (mt (mem_of_hasTickRun (by decide)) htick)
    rintro ⟨inside, after, hread, hafter⟩
    by_cases hnil : code = []
    · rw [hnil] at hread
      exact absurd hread nofun
    · rw [readSpan?_single hnil htick, Option.some_inj, Prod.mk.injEq] at hread
      exact hafter hread.2.symm

/-- **Code reads back** where it fits the span that is written for it: for every code element, what
is written is one span that holds the element's text exactly if that text is not empty, has no run
of two backticks and has no spaces that would be taken for those of the span. Whether a part of the
code gets out of the span depends on the run of two backticks alone. -/
theorem readSpan?_writeElement (style : Style) (rawHtml : List Text) (place : Place) (s : State)
    (attrs : Attrs) (text : Option Text) (children : List Element) (tail : Option Text) :
    let e := Element.mk "code" attrs text children tail
    let code := Inline.Rule.unescapeCode e.innerText
    writeElement style rawHtml place e s = .ok (s.put (codeSpan code)) ∧
      (readSpan? (codeSpan code) = some (code, []) ↔ FitsSpan code) ∧
      ((∃ inside after, readSpan? (codeSpan code) = some (inside, after) ∧ after ≠ []) ↔
        HasTickRun 2 code) := by
  have hkind : Kind.of "code" attrs = .code := rfl
  refine ⟨?_, readSpan?_codeSpan_eq_iff _, exists_readSpan?_codeSpan_iff _⟩
  rw [writeElement, openElement]
  simp only [Element.tag, Element.attrs, hkind]

example : codeSpan "a\x60\x60b" = "\x60\x60 a\x60\x60b \x60\x60".toList ∧
    readSpan? (codeSpan "a\x60\x60b") = some (" a".toList, "b \x60\x60".toList) := by decide

end ApiSite.Markup.Writer
