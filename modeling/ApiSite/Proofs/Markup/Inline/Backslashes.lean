import ApiSite.Proofs.Markup.Backslashes
import ApiSite.Proofs.Markup.Inline.Calm

/-!
# Backslashes in inline markup

The rule for code goes over a text before the rule for backslashes. It opens code at a backtick
unless a backslash stands directly before it, and it counts the backslashes before a backtick where
their number is even: in a source of signs that is never so, since the backslash of an escaped
backtick makes it odd (`pass_codeSpan`). Then every escaped character becomes a piece of its own
(`pass_backslash`), no later rule finds anything in the letters and blanks that are left, and the
pieces are put together as one text of marks (`isRead_signs`).
-/

set_option autoImplicit false

namespace ApiSite.Markup

variable {ss : List Sign} {s : Pieces} {t u : Text} {x : Char}

namespace Sign

def isEscaped : Sign → Bool
  | plain _ => false
  | escaped _ => true

end Sign

namespace Inline

variable {setting : Setting} {trace : Trace} {inside : Draft → Trace → Draft × Trace}
  {previous : Option Piece}

/-! ### Code -/

theorem ofText_source_plain {c : Char} :
    Pieces.ofText (sourceOfSigns (.plain c :: ss)) = .char c :: Pieces.ofText (sourceOfSigns ss) :=
  rfl

theorem ofText_source_escaped {c : Char} :
    Pieces.ofText (sourceOfSigns (.escaped c :: ss)) =
      .char '\\' :: .char c :: Pieces.ofText (sourceOfSigns ss) := rfl

/-- Behind an even number of backslashes stands no backtick. -/
theorem beginsWith_tick_signs (h : IsSigned ss)
    (heven : Pieces.countStart (· == '\\') (Pieces.ofText (sourceOfSigns ss)) % 2 = 0) :
    Pieces.beginsWith (·.is '\x60') ((Pieces.ofText (sourceOfSigns ss)).drop
      (Pieces.countStart (· == '\\') (Pieces.ofText (sourceOfSigns ss)))) = false := by
  induction ss with
  | nil => rfl
  | cons a ss ih =>
    cases a with
    | plain c =>
      have hslash : c ≠ '\\' := h.ne_of_plain List.mem_cons_self rfl (by decide) (by decide)
      have htick : c ≠ '\x60' := h.ne_of_plain List.mem_cons_self rfl (by decide) (by decide)
      have hcount : Pieces.countStart (· == '\\')
          (Pieces.ofText (sourceOfSigns (.plain c :: ss))) = 0 := by
        simp [ofText_source_plain, Pieces.countStart, Piece.satisfies, hslash]
      rw [hcount, ofText_source_plain]
      exact beq_eq_false_iff_ne.mpr htick
    | escaped c =>
      by_cases hslash : c = '\\'
      · have hcount : Pieces.countStart (· == '\\')
            (Pieces.ofText (sourceOfSigns (.escaped c :: ss))) =
              Pieces.countStart (· == '\\') (Pieces.ofText (sourceOfSigns ss)) + 2 := by
          simp [ofText_source_escaped, Pieces.countStart, Piece.satisfies, hslash]
        rw [hcount] at heven ⊢
        exact ih h.of_cons (by omega)
      · have hcount : Pieces.countStart (· == '\\')
            (Pieces.ofText (sourceOfSigns (.escaped c :: ss))) = 1 := by
          simp [ofText_source_escaped, Pieces.countStart, Piece.satisfies, hslash]
        rw [hcount] at heven
        cases heven

theorem codeSpan_behind_slash (hprevious : previous.any (·.is '\\') = true) :
    Rule.codeSpan setting trace previous s = (.reject, trace) := by
  rw [Rule.codeSpan, Rule.pure, if_pos hprevious]

/-- No code begins with a sign. -/
theorem codeSpan_signs (h : IsSigned ss) :
    Rule.codeSpan setting trace previous (Pieces.ofText (sourceOfSigns ss)) = (.reject, trace) := by
  cases hprevious : previous.any (·.is '\\') with
  | true => exact codeSpan_behind_slash hprevious
  | false =>
    have htick := beginsWith_tick_signs h
    rw [Rule.codeSpan, Rule.pure, hprevious, if_neg Bool.false_ne_true]
    by_cases hslashes : 0 < Pieces.countStart (· == '\\') (Pieces.ofText (sourceOfSigns ss))
    · by_cases heven : Pieces.countStart (· == '\\') (Pieces.ofText (sourceOfSigns ss)) % 2 = 0
      · simp [hslashes, heven, htick heven]
      · simp [hslashes, heven]
    · have hnone : Pieces.countStart (· == '\\') (Pieces.ofText (sourceOfSigns ss)) = 0 := by omega
      rw [hnone, List.drop_zero] at htick
      simp [hnone, htick rfl]

/-- **The rule for code finds nothing among signs.** -/
theorem pass_codeSpan (h : IsSigned ss) :
    pass setting Rule.codeSpan inside previous .nothing (Pieces.ofText (sourceOfSigns ss)) trace =
      (Pieces.ofText (sourceOfSigns ss), trace) := by
  induction ss generalizing previous with
  | nil => rw [sourceOfSigns, List.flatMap_nil, Pieces.ofText, List.map_nil, pass]
  | cons a ss ih =>
    have hhere := @codeSpan_signs (a :: ss) setting trace previous h
    have hrest (previous : Option Piece) := @ih previous h.of_cons
    cases a with
    | plain c =>
      rw [ofText_source_plain] at hhere ⊢
      simp only [pass, hhere, hrest]
    | escaped c =>
      rw [ofText_source_escaped] at hhere ⊢
      have hnext : Rule.codeSpan setting trace (some (.char '\\'))
          (.char c :: Pieces.ofText (sourceOfSigns ss)) = (.reject, trace) :=
        codeSpan_behind_slash rfl
      simp only [pass, hhere, hnext, hrest]

/-! ### Escaped characters -/

/-- Signs with each escaped character set aside, the first under the given number. -/
def setAside : Nat → List Sign → Pieces
  | _, [] => []
  | n, .plain c :: ss => .char c :: setAside n ss
  | n, .escaped c :: ss => .literal n (Mark.escaped c) :: setAside (n + 1) ss

/-- **Each escaped character is set aside in turn.** -/
theorem pass_backslash (h : IsSigned ss) :
    pass setting Rule.backslash inside previous .nothing (Pieces.ofText (sourceOfSigns ss)) trace =
      (setAside trace.next ss, { trace with next := trace.next + ss.countP Sign.isEscaped }) := by
  induction ss generalizing previous trace with
  | nil => simp [sourceOfSigns, Pieces.ofText, pass, setAside]
  | cons a ss ih =>
    have hrest (previous : Option Piece) (trace : Trace) := @ih trace previous h.of_cons
    cases a with
    | plain c =>
      have hslash : c ≠ '\\' := h.ne_of_plain List.mem_cons_self rfl (by decide) (by decide)
      have hhere : Rule.backslash setting trace previous
          (.char c :: Pieces.ofText (sourceOfSigns ss)) = (.reject, trace) := by
        rw [Rule.backslash, Rule.pure]
        split
        · next heq => exact absurd (Piece.char.inj (List.cons.inj heq).1) hslash
        · next heq => exact absurd (Piece.char.inj (List.cons.inj heq).1) hslash
        · rfl
      rw [ofText_source_plain]
      simp only [pass, hhere, hrest]
      rfl
    | escaped c =>
      have hcontains : Rule.escapable.contains c = true := by
        simpa using h.escaped List.mem_cons_self
      have hhere : Rule.backslash setting trace previous
          (.char '\\' :: .char c :: Pieces.ofText (sourceOfSigns ss)) =
            (.literal 2 (Mark.escaped c), trace) := by
        rw [Rule.backslash, Rule.pure]
        simp only [hcontains, if_true]
      rw [ofText_source_escaped]
      simp only [pass, hhere, pass_taken_zero, hrest]
      simp [setAside, List.countP_cons, Sign.isEscaped, Nat.add_assoc, Nat.add_comm 1]

theorem lacks_setAside (h : IsSigned ss) (hx : x.isAlpha = false) (hblank : Text.isBlank x = false)
    {n : Nat} : Lacks x (setAside n ss) := by
  induction ss generalizing n with
  | nil => exact fun p hp ↦ nomatch hp
  | cons a ss ih =>
    intro p hp
    cases a with
    | plain c =>
      rcases List.mem_cons.mp hp with rfl | hp
      · have hspace : ' ' ≠ x := by rintro rfl; cases hblank
        have hfeed : '\n' ≠ x := by rintro rfl; cases hblank
        exact beq_eq_false_iff_ne.mpr (h.ne_of_plain List.mem_cons_self hx hspace hfeed)
      · exact ih h.of_cons p hp
    | escaped c =>
      rcases List.mem_cons.mp hp with rfl | hp
      · rfl
      · exact ih h.of_cons p hp

theorem forall₂_setAside {n : Nat} :
    List.Forall₂ (fun a p ↦ p.is ' ' = true → Sign.isBlank a = true) ss (setAside n ss) := by
  induction ss generalizing n with
  | nil => exact List.Forall₂.nil
  | cons a ss ih =>
    cases a with
    | plain c => exact List.Forall₂.cons (fun hspace ↦ by rw [beq_iff_eq.mp hspace]; rfl) ih
    | escaped c => exact List.Forall₂.cons (fun hspace ↦ nomatch hspace) ih

/-- Signs are read by setting the escaped characters aside. -/
theorem readText_signs (hdefinitions : setting.definitions = []) (h : IsEscaped ss) :
    readText setting (Pieces.ofText (sourceOfSigns ss)) trace =
      (setAside trace.next ss, { trace with next := trace.next + ss.countP Sign.isEscaped }) := by
  have hall : Rule.all = Rule.codeSpan :: Rule.backslash :: Rule.all.drop 2 := rfl
  rw [readText, readPieces, hall, applyRules]
  simp only [pass_codeSpan h.toIsSigned]
  rw [applyRules]
  simp only [pass_backslash h.toIsSigned]
  exact applyRules_of_lacks hdefinitions
    (fun x hx hblank ↦ lacks_setAside h.toIsSigned hx hblank)
    (noTwoSpaces_of_forall₂ forall₂_setAside h.single)

/-! ### The text of marks -/

/-- Characters and what was set aside among them are put together as one text. -/
theorem assemble_setAside {n : Nat} :
    assemble false (Pieces.ofText u).reverse (setAside n ss) { text := runOf t } =
      { text := runOf (t ++ u ++ markedOfSigns ss) } := by
  induction ss generalizing n t u with
  | nil =>
    rw [setAside, assemble, List.reverse_reverse, addText_runOf]
    simp [markedOfSigns]
  | cons a ss ih =>
    cases a with
    | plain c =>
      have hplain : .char c :: (Pieces.ofText u).reverse = (Pieces.ofText (u ++ [c])).reverse := by
        simp [Pieces.ofText]
      rw [setAside, assemble, hplain, ih]
      simp [markedOfSigns, Sign.marked]
    | escaped c =>
      have hnone : ([] : Pieces) = (Pieces.ofText []).reverse := rfl
      rw [setAside, assemble_literal, hnone, ih]
      simp [markedOfSigns, Sign.marked]

/-- **Signs are read as one text, in which a mark stands for each escaped character.** -/
theorem isRead_signs (hdefinitions : setting.definitions = []) (h : IsEscaped ss) :
    IsRead setting (sourceOfSigns ss)
      ⟨runOf (markedOfSigns ss), [], [], ss.countP Sign.isEscaped⟩ where
  notEmpty := by
    obtain ⟨c, t, hsource⟩ := h.beginsPlainly.exists_eq
    rw [hsource]
    exact List.cons_ne_nil c t
  read trace := by
    have hassemble (n : Nat) : assemble false [] (setAside n ss) {} =
        { text := runOf (markedOfSigns ss) } := @assemble_setAside ss [] [] n
    simp only [readRunText, Bool.false_eq_true, if_false, readText_signs hdefinitions h, hassemble]
    simp
  flat e he := nomatch he

end Inline

end ApiSite.Markup
