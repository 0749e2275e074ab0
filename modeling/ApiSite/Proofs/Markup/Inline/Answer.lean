import ApiSite.Proofs.Markup.Inline.Paragraphs

/-!
# Names in running text

In running text every rule of inline markup but one lacks a character that it needs. The remaining
one takes the names in brackets in turn, asks what each stands for, and puts the answer in its place
(`pass_nameReference`). Then the text before the first answer becomes the text of the paragraph, and
the answers become its children with the texts between them as their tails (`read_paragraphs`).
-/

set_option autoImplicit false

namespace ApiSite.Markup.Inline

variable {as : List Atom} {ps : List (List Atom)} {s ts : Pieces} {t letters : Text} {x : Char}
  {setting : Setting} {r : Text → Element} {resolve : Text → Option Element} {trace : Trace}

/-! ### Answers -/

/-- An element with a text and nothing else in it or behind it. -/
def IsLeaf (e : Element) : Prop := ∃ tag attrs text, e = .mk tag attrs (some text) [] none

/-- A text whose names have been answered, the first answer under the given number. -/
def answered (r : Text → Element) : Nat → List Atom → Pieces
  | _, [] => []
  | n, .char c :: as => .char c :: answered r n as
  | n, .name letters :: as => .element n (Rule.resolved (r letters)) :: answered r (n + 1) as

theorem spelled_ofText : Pieces.spelled (Pieces.ofText t) = t := by
  induction t with
  | nil => rfl
  | cons c t ih => exact congrArg (c :: ·) ih

theorem unescapeCode_eq_self (ht : '&' ∉ t) : Rule.unescapeCode t = t := by
  have hlt : Text.replace "&lt;" ['<'] t = t :=
    Text.replace_eq_self (x := '&') (by decide) ht
  have hgt : Text.replace "&gt;" ['>'] t = t :=
    Text.replace_eq_self (x := '&') (by decide) ht
  have hamp : Text.replace "&amp;" ['&'] t = t :=
    Text.replace_eq_self (x := '&') (by decide) ht
  rw [Rule.unescapeCode, hlt, hgt, hamp]

theorem nameOf_ofText (hletters : ∀ c ∈ letters, c.isAlpha = true) :
    Rule.nameOf (Pieces.ofText letters) = letters := by
  rw [Rule.nameOf, spelled_ofText,
    unescapeCode_eq_self (Text.not_mem_of_all hletters rfl), Mark.restoreEscapes,
    Mark.substitute_eq_self (Text.not_mem_of_all hletters rfl)]

theorem bracketText?_ofText (hletters : ∀ c ∈ letters, c.isAlpha = true) :
    bracketText? 0 (Pieces.ofText letters ++ .char ']' :: s) =
      some (Pieces.ofText letters, letters.length + 1) := by
  induction letters with
  | nil => rfl
  | cons c letters ih =>
    have hc := hletters c List.mem_cons_self
    have hclose : Piece.is ']' (.char c) = false := beq_eq_false_iff_ne.mpr (ne_of_isAlpha hc rfl)
    have hopen : Piece.is '[' (.char c) = false := beq_eq_false_iff_ne.mpr (ne_of_isAlpha hc rfl)
    have hrest := ih fun d hd ↦ hletters d (List.mem_cons_of_mem _ hd)
    rw [Pieces.ofText, List.map_cons, List.cons_append, bracketText?, hclose, hopen,
      if_neg Bool.false_ne_true, if_neg Bool.false_ne_true, ← Pieces.ofText, hrest]
    rfl

/-- A name in brackets is answered, and the question is recorded. -/
theorem nameReference_bracketed (hsetting : setting = ⟨[], some resolve⟩)
    (hletters : ∀ c ∈ letters, c.isAlpha = true) {previous : Option Piece}
    (hprevious : Rule.followsBang previous = false) {e : Element} (he : resolve letters = some e) :
    Rule.nameReference setting trace previous
        (.char '[' :: (Pieces.ofText letters ++ .char ']' :: s)) =
      (.element (letters.length + 2) (Rule.resolved e),
        { trace with names := trace.names ++ [letters] }) := by
  subst hsetting
  have hbracket : Rule.bracket? previous (.char '[' :: (Pieces.ofText letters ++ .char ']' :: s)) =
      some (Pieces.ofText letters, letters.length + 2) := by
    rw [Rule.bracket?, hprevious, if_neg Bool.false_ne_true, bracketText?_ofText hletters]
    rfl
  have hlabel (label : Text) : Rule.definition? ⟨[], some resolve⟩ label = none := rfl
  simp [Rule.nameReference, hbracket, hlabel, nameOf_ofText hletters, he]

theorem nameReference_reject {previous : Option Piece} {p : Piece} (hp : p.is '[' = false) :
    Rule.nameReference setting trace previous (p :: s) = (.reject, trace) := by
  have hbracket : Rule.bracket? previous (p :: s) = none := by
    rw [Rule.bracket?.eq_def]
    split
    · next heq =>
      cases heq
      cases hp
    · rfl
  rw [Rule.nameReference, hbracket]

section Taken

variable {rule : Rule} {inside : Draft → Trace → Draft × Trace} {previous : Option Piece}

theorem pass_taken_zero :
    pass setting rule inside previous (.taken 0) s trace =
      pass setting rule inside previous .nothing s trace := by
  cases s with
  | nil => rfl
  | cons p s => rfl

/-- What belongs to a recognised piece is passed over. -/
theorem pass_taken :
    pass setting rule inside previous (.taken ts.length) (ts ++ s) trace =
      pass setting rule inside previous .nothing s trace := by
  induction ts with
  | nil => exact pass_taken_zero
  | cons p ts ih => exact ih

end Taken

theorem readElement_resolved (later same : Pieces → Trace → Pieces × Trace) (trace : Trace)
    {e : Element} (he : IsLeaf e) :
    readElement later same (Rule.resolved e) trace = (Rule.resolved e, trace) := by
  obtain ⟨tag, attrs, text, rfl⟩ := he
  rfl

/-- The step over a name in brackets: its answer stands in its place, and the pass goes on behind
the brackets. -/
theorem pass_name (hsetting : setting = ⟨[], some resolve⟩)
    (hletters : ∀ c ∈ letters, c.isAlpha = true) {previous : Option Piece}
    (hprevious : Rule.followsBang previous = false) {e : Element} (he : resolve letters = some e)
    (hleaf : IsLeaf e) {later same : Pieces → Trace → Pieces × Trace} :
    pass setting Rule.nameReference (readElement later same) previous .nothing
        (.char '[' :: (Pieces.ofText letters ++ .char ']' :: s)) trace =
      let answer := Piece.element trace.next (Rule.resolved e)
      let (rest, trace) :=
        pass setting Rule.nameReference (readElement later same) (some answer) .nothing s
          { trace with names := trace.names ++ [letters], next := trace.next + 1 }
      (answer :: rest, trace) := by
  have htaken : Pieces.ofText letters ++ Piece.char ']' :: s =
      (Pieces.ofText letters ++ [Piece.char ']']) ++ s := by simp
  have hsize : letters.length + 2 - 1 = (Pieces.ofText letters ++ [Piece.char ']']).length := by
    simp [Pieces.ofText]
  have hinside := readElement_resolved later same
    { trace with names := trace.names ++ [letters] } hleaf
  simp only [pass, nameReference_bracketed hsetting hletters hprevious he, hinside]
  rw [htaken, hsize, pass_taken]

/-- **The names of a running text are asked for in turn, and each is replaced by its answer.** -/
theorem pass_nameReference (hsetting : setting = ⟨[], some resolve⟩) (has : IsSpelled as)
    (hr : ∀ letters ∈ namesOf as, resolve letters = some (r letters))
    (hleaf : ∀ letters ∈ namesOf as, IsLeaf (r letters))
    {later same : Pieces → Trace → Pieces × Trace} {previous : Option Piece}
    (hprevious : Rule.followsBang previous = false) :
    pass setting Rule.nameReference (readElement later same) previous .nothing
        (Pieces.ofText (sourceOf as)) trace =
      (answered r trace.next as,
        { trace with
          names := trace.names ++ namesOf as
          next := trace.next + (namesOf as).length }) := by
  induction as generalizing previous trace with
  | nil => simp [sourceOf, writtenWith, Pieces.ofText, pass, answered, namesOf]
  | cons a as ih =>
    have hspelled := has.of_cons
    cases a with
    | char c =>
      have hnames : namesOf (.char c :: as) = namesOf as := rfl
      rw [hnames] at hr hleaf ⊢
      have hopen : Piece.is '[' (.char c) = false :=
        beq_eq_false_iff_ne.mpr
          (has.ne_of_char List.mem_cons_self rfl (by decide) (by decide))
      have hbang : Rule.followsBang (some (.char c)) = false :=
        beq_eq_false_iff_ne.mpr
          (has.ne_of_char List.mem_cons_self rfl (by decide) (by decide))
      have hsource : Pieces.ofText (sourceOf (.char c :: as)) =
          .char c :: Pieces.ofText (sourceOf as) := rfl
      simp only [hsource, pass, nameReference_reject hopen, ih hspelled hr hleaf hbang, answered]
    | name letters =>
      have hnames : namesOf (.name letters :: as) = letters :: namesOf as := rfl
      rw [hnames] at hr hleaf ⊢
      have hsource : Pieces.ofText (sourceOf (.name letters :: as)) =
          .char '[' :: (Pieces.ofText letters ++ .char ']' :: Pieces.ofText (sourceOf as)) := by
        simp [sourceOf, writtenWith, Atom.written, bracketed, Pieces.ofText]
      rw [hsource, pass_name hsetting (has.name List.mem_cons_self).2 hprevious
        (hr letters List.mem_cons_self) (hleaf letters List.mem_cons_self)]
      have hrest (k : Nat) (node : Draft) (trace : Trace) := @ih trace hspelled
        (fun l hl ↦ hr l (List.mem_cons_of_mem _ hl))
        (fun l hl ↦ hleaf l (List.mem_cons_of_mem _ hl)) (some (.element k node)) rfl
      simp only [hrest]
      simp [answered, Nat.add_right_comm, ← Nat.add_assoc]

/-! ### After the names -/

theorem mem_answered {n : Nat} {p : Piece} (hp : p ∈ answered r n as) :
    (∃ c, .char c ∈ as ∧ p = .char c) ∨ ∃ k node, p = .element k node := by
  induction as generalizing n with
  | nil => cases hp
  | cons a as ih =>
    have hlater {n : Nat} (hp : p ∈ answered r n as) :
        (∃ c, Atom.char c ∈ a :: as ∧ p = .char c) ∨ ∃ k node, p = .element k node := by
      rcases ih hp with ⟨c, hc, rfl⟩ | hnode
      · exact Or.inl ⟨c, List.mem_cons_of_mem _ hc, rfl⟩
      · exact Or.inr hnode
    cases a with
    | char c =>
      rcases List.mem_cons.mp hp with rfl | hp
      · exact Or.inl ⟨c, List.mem_cons_self, rfl⟩
      · exact hlater hp
    | name letters =>
      rcases List.mem_cons.mp hp with rfl | hp
      · exact Or.inr ⟨_, _, rfl⟩
      · exact hlater hp

theorem lacks_answered (has : IsSpelled as) (hx : isPlain x = false) {n : Nat} :
    Lacks x (answered r n as) := by
  intro p hp
  rcases mem_answered hp with ⟨c, hc, rfl⟩ | ⟨k, node, rfl⟩
  · rw [Piece.is, beq_eq_false_iff_ne]
    rintro rfl
    rw [has.isPlain_char hc] at hx
    cases hx
  · rfl

theorem forall₂_answered {n : Nat} :
    List.Forall₂ (fun a p ↦ p.is ' ' = true → Atom.isBlank a = true) as (answered r n as) := by
  induction as generalizing n with
  | nil => exact List.Forall₂.nil
  | cons a as ih =>
    cases a with
    | char c => exact List.Forall₂.cons (fun hspace ↦ by rw [beq_iff_eq.mp hspace]; rfl) ih
    | name letters => exact List.Forall₂.cons (fun hspace ↦ nomatch hspace) ih

/-- Pieces without marks are added as they stand. -/
theorem readMarks_append {n : Nat} {previous : Option Piece} {before : Pieces}
    (hstar : Lacks '*' ts) (hunder : Lacks '_' ts) :
    readMarks previous 0 (ts ++ s) { outside := before, next := n } =
      readMarks (ts.getLast?.or previous) 0 s { outside := ts.reverse ++ before, next := n } := by
  induction ts generalizing previous before with
  | nil => rfl
  | cons p ts ih =>
    have hp : EmphasisMark.of? p = none := by
      simp [EmphasisMark.of?, hstar p List.mem_cons_self, hunder p List.mem_cons_self]
    have hlast : ts.getLast?.or (some p) = (p :: ts).getLast?.or previous := by
      cases ts with
      | nil => rfl
      | cons q ts => rw [List.getLast?_cons_cons, List.getLast?_cons]; rfl
    simp only [List.cons_append, readMarks, hp, Nesting.add, List.reverse_cons, List.reverse_nil,
      List.nil_append, List.append_assoc]
    rw [ih hstar.of_cons hunder.of_cons, hlast]

theorem readEmphasis_eq_self {n : Nat} (hstar : Lacks '*' s) (hunder : Lacks '_' s) :
    readEmphasis s n = (s, n) := by
  have hmarks := @readMarks_append [] s n none [] hstar hunder
  rw [List.append_nil] at hmarks
  rw [readEmphasis, hmarks]
  simp [readMarks, Nesting.pieces]

/-- An underscore within a word is no emphasis. -/
theorem readEmphasis_underscore {n : Nat} {p q : Piece}
    (hbefore : Lacks '*' (ts ++ [p]) ∧ Lacks '_' (ts ++ [p]))
    (hafter : Lacks '*' (q :: s) ∧ Lacks '_' (q :: s)) (hp : p.satisfies Text.isWord = true)
    (hq : q.satisfies Text.isWord = true) :
    readEmphasis (ts ++ p :: .char '_' :: q :: s) n = (ts ++ p :: .char '_' :: q :: s, n) := by
  have hcount : Pieces.countStart (· == '_') (.char '_' :: q :: s) = 1 := by
    have hrest : Pieces.countStart (· == '_') (q :: s) = 0 := countStart_eq_zero hafter.2
    simpa [Pieces.countStart, Piece.satisfies] using hrest
  -- it is a run that neither opens nor closes
  have hrun : MarkRun.at .underscore (some p) (.char '_' :: q :: s) =
      ⟨.underscore, 1, 1, false, false⟩ := by
    rw [MarkRun.at]
    simp [EmphasisMark.char, hcount, hp, hq]
  have hmark : EmphasisMark.of? (.char '_') = some .underscore := rfl
  have hsplit : ts ++ p :: .char '_' :: q :: s = (ts ++ [p]) ++ .char '_' :: q :: s := by simp
  have hmarks := @readMarks_append [] (q :: s) n (some (.char '_'))
    (.char '_' :: (ts ++ [p]).reverse) hafter.1 hafter.2
  rw [List.append_nil] at hmarks
  have hread : readMarks none 0 (ts ++ p :: .char '_' :: q :: s) { next := n } =
      { outside := (q :: s).reverse ++ .char '_' :: (ts ++ [p]).reverse, next := n } := by
    rw [hsplit, readMarks_append hbefore.1 hbefore.2, List.getLast?_concat, Option.some_or,
      List.append_nil, readMarks, hmark]
    simp only [hrun, Nesting.take, Bool.false_eq_true, if_false, Bool.false_and, Nesting.add,
      MarkRun.pieces]
    exact hmarks
  rw [readEmphasis, hread]
  simp [Nesting.pieces]

/-- A running text is read by answering the names in it. -/
theorem readText_sourceOf (hsetting : setting = ⟨[], some resolve⟩) (has : IsRunning as)
    (hr : ∀ letters ∈ namesOf as, resolve letters = some (r letters))
    (hleaf : ∀ letters ∈ namesOf as, IsLeaf (r letters)) :
    readText setting (Pieces.ofText (sourceOf as)) trace =
      (answered r trace.next as,
        { trace with
          names := trace.names ++ namesOf as
          next := trace.next + (namesOf as).length }) := by
  have hdefinitions : setting.definitions = [] := by rw [hsetting]
  have hsource {x : Char} (hx : isPlain x = false) : Lacks x (Pieces.ofText (sourceOf as)) :=
    lacks_ofText (has.not_mem hx)
  have hanswered {x : Char} (hx : isPlain x = false) : Lacks x (answered r trace.next as) :=
    lacks_answered has.toIsSpelled hx
  have hbefore : ∀ rule ∈ [Rule.codeSpan, Rule.backslash, Rule.bracketCode, Rule.linkByLabel,
      Rule.linkToTarget, Rule.imageAtTarget, Rule.imageByLabel],
      Spares setting rule (Pieces.ofText (sourceOf as)) := by
    simp [Rule.spares_codeSpan (hsource rfl) (hsource rfl), Rule.spares_backslash (hsource rfl),
      Rule.spares_bracketCode (hsource rfl), Rule.spares_linkByLabel hdefinitions,
      Rule.spares_linkToTarget (hsource rfl), Rule.spares_imageAtTarget (hsource rfl),
      Rule.spares_imageByLabel (hsource rfl)]
  have hafter : ∀ rule ∈ [Rule.imageByText, Rule.bracketedAddress, Rule.bareAddress,
      Rule.mailAddress, Rule.lineBreak, Rule.inlineTag, Rule.characterReference, Rule.deletion],
      Spares setting rule (answered r trace.next as) := by
    simp [Rule.spares_imageByText (hanswered rfl), Rule.spares_bracketedAddress (hanswered rfl),
      Rule.spares_bareAddress (hanswered rfl) (hanswered rfl),
      Rule.spares_mailAddress (hanswered rfl),
      Rule.spares_lineBreak (noTwoSpaces_of_forall₂ forall₂_answered has.single),
      Rule.spares_inlineTag (hanswered rfl), Rule.spares_characterReference (hanswered rfl),
      Rule.spares_deletion (hanswered rfl)]
  have hall : Rule.all = [Rule.codeSpan, Rule.backslash, Rule.bracketCode, Rule.linkByLabel,
      Rule.linkToTarget, Rule.imageAtTarget, Rule.imageByLabel] ++ (Rule.nameReference ::
      ([Rule.imageByText, Rule.bracketedAddress, Rule.bareAddress, Rule.mailAddress,
        Rule.lineBreak, Rule.inlineTag, Rule.characterReference, Rule.deletion] ++ [])) := rfl
  have hpass (later same : Pieces → Trace → Pieces × Trace) :=
    @pass_nameReference as setting r resolve trace hsetting has.toIsSpelled hr hleaf later same
      none rfl
  rw [readText, readPieces, hall, applyRules_of_spares hbefore, applyRules]
  simp only [hpass]
  rw [applyRules_of_spares hafter, applyRules, readEmphasis_eq_self (hanswered rfl) (hanswered rfl)]

/-! ### The tree -/

/-- The characters before the first name. -/
def lead : List Atom → Text
  | .char c :: as => c :: lead as
  | _ => []

/-- The answers to the names of a text, each with the characters up to the next one. -/
def answers (r : Text → Element) : List Atom → List Element
  | [] => []
  | .char _ :: as => answers r as
  | .name letters :: as => (r letters).setTail (given (lead as)) :: answers r as

/-- The element of a paragraph. -/
def paragraphOf (r : Text → Element) (as : List Atom) : Element :=
  .mk "p" [] (given (lead as)) (answers r as) none

/-- An answer in the middle of reading, with the characters behind it. -/
def answerDraft (e : Element) (t : Text) : Draft :=
  match Rule.resolved e with
  | .mk tag attrs text children _ => .mk tag attrs text children (runOf t)

/-- The answers to the names of a text in the middle of reading. -/
def answerDrafts (r : Text → Element) : List Atom → List Draft
  | [] => []
  | .char _ :: as => answerDrafts r as
  | .name letters :: as => answerDraft (r letters) (lead as) :: answerDrafts r as

/-- Characters are gathered up to the next piece that is none. -/
theorem assemble_ofText_append {closed : Bool} {plain : Pieces} {a : Assembly} :
    assemble closed plain (Pieces.ofText t ++ s) a =
      assemble closed ((Pieces.ofText t).reverse ++ plain) s a := by
  induction t generalizing plain with
  | nil => rfl
  | cons c t ih =>
    rw [Pieces.ofText, List.map_cons, List.cons_append, assemble, ← Pieces.ofText, ih]
    simp

/-- What was set aside among characters is put together with them as one text. -/
theorem assemble_literal {n : Nat} {u aside : Text} :
    assemble false (Pieces.ofText u).reverse (.literal n aside :: s) { text := runOf t } =
      assemble false [] s { text := runOf (t ++ u ++ aside) } := by
  rw [assemble, List.reverse_reverse, addText_runOf, addText_runOf]

theorem assemble_ofText {closed : Bool} {plain : Pieces} :
    assemble closed plain (Pieces.ofText t) {} =
      Assembly.addText (plain.reverse ++ Pieces.ofText t) closed {} := by
  have hgathered := @assemble_ofText_append [] t closed plain {}
  rw [List.append_nil] at hgathered
  rw [hgathered, assemble]
  simp

theorem settle_resolved {e : Element} (he : IsLeaf e) :
    settle (Rule.resolved e) = Rule.resolved e := by
  obtain ⟨tag, attrs, text, rfl⟩ := he
  have hrun : settleRun (some (.mk true (Pieces.ofText text))) =
      { text := some (.mk true (Pieces.ofText text)) } := by
    rw [settleRun]
    split
    · rfl
    · next hblank =>
      have hempty : (Pieces.ofText text).isEmpty = false := by
        cases text with
        | nil => exact absurd rfl hblank
        | cons c text => rfl
      rw [assemble_ofText, List.reverse_nil, List.nil_append, Assembly.addText, hempty]
      rfl
  have hresolved : Rule.resolved (.mk tag attrs (some text) [] none) =
      .mk tag attrs (some (.mk true (Pieces.ofText text))) [] none := rfl
  rw [hresolved, settle, hrun]
  simp [settleRun, settleChildren]

/-- Characters behind an answer become its tail. -/
theorem addText_answer {e : Element} (he : IsLeaf e) (a : Assembly) :
    Assembly.addText (Pieces.ofText t) false
        { a with elements := Rule.resolved e :: a.elements } =
      { a with elements := answerDraft e t :: a.elements } := by
  obtain ⟨tag, attrs, text, rfl⟩ := he
  have hresolved : Rule.resolved (.mk tag attrs (some text) [] none) =
      .mk tag attrs (some (.mk true (Pieces.ofText text))) [] none := rfl
  rw [answerDraft, hresolved]
  cases t with
  | nil => rfl
  | cons c t => rfl

theorem assemble_answered (hleaf : ∀ letters ∈ namesOf as, IsLeaf (r letters)) {n : Nat}
    {plain : Pieces} {a : Assembly} :
    assemble false plain (answered r n as) a =
      let b := a.addText (plain.reverse ++ Pieces.ofText (lead as)) false
      { b with elements := (answerDrafts r as).reverse ++ b.elements } := by
  induction as generalizing n plain a with
  | nil => simp [answered, assemble, lead, answerDrafts, Pieces.ofText]
  | cons p as ih =>
    cases p with
    | char c =>
      rw [answered, assemble, ih hleaf]
      simp [lead, answerDrafts, Pieces.ofText]
    | name letters =>
      have hhere := hleaf letters List.mem_cons_self
      have hlater := fun l hl ↦ hleaf l (List.mem_cons_of_mem _ hl)
      simp only [answered, assemble, settle_resolved hhere]
      rw [ih hlater, List.reverse_nil, List.nil_append, addText_answer hhere]
      simp [lead, answerDrafts, Pieces.ofText]

theorem readRunText_sourceOf (hsetting : setting = ⟨[], some resolve⟩) (has : IsRunning as)
    (hr : ∀ letters ∈ namesOf as, resolve letters = some (r letters))
    (hleaf : ∀ letters ∈ namesOf as, IsLeaf (r letters)) :
    readRunText setting (some (.mk false (Pieces.ofText (sourceOf as)))) trace =
      (runOf (lead as), answerDrafts r as,
        { trace with
          names := trace.names ++ namesOf as
          next := trace.next + (namesOf as).length }) := by
  have htext : Assembly.addText (Pieces.ofText (lead as)) false {} =
      { text := runOf (lead as) } := by
    cases lead as with
    | nil => rfl
    | cons c t => rfl
  simp only [readRunText, Bool.false_eq_true, if_false, readText_sourceOf hsetting has hr hleaf,
    assemble_answered hleaf, List.reverse_nil, List.nil_append, htext]
  simp

theorem exists_of_mem_answerDrafts (hleaf : ∀ letters ∈ namesOf as, IsLeaf (r letters))
    {e : Draft} (he : e ∈ answerDrafts r as) :
    ∃ tag attrs text tail, e = .mk tag attrs text [] tail := by
  induction as with
  | nil => cases he
  | cons a as ih =>
    cases a with
    | char c => exact ih hleaf he
    | name letters =>
      rcases List.mem_cons.mp he with rfl | he
      · obtain ⟨tag, attrs, text, hr⟩ := hleaf letters List.mem_cons_self
        rw [hr]
        exact ⟨_, _, _, _, rfl⟩
      · exact ih (fun l hl ↦ hleaf l (List.mem_cons_of_mem _ hl)) he

/-- A running text is read as its answers with the characters between them. -/
theorem isRead_sourceOf (hsetting : setting = ⟨[], some resolve⟩) (has : IsRunning as)
    (hr : ∀ letters ∈ namesOf as, resolve letters = some (r letters))
    (hleaf : ∀ letters ∈ namesOf as, IsLeaf (r letters)) :
    IsRead setting (sourceOf as)
      ⟨runOf (lead as), answerDrafts r as, namesOf as, (namesOf as).length⟩ where
  notEmpty := by
    obtain ⟨c, t, hsource, -⟩ := has.exists_head
    rw [hsource]
    exact List.cons_ne_nil c t
  read _ := readRunText_sourceOf hsetting has hr hleaf
  flat _ := exists_of_mem_answerDrafts hleaf

theorem finished_answerDraft {e : Element} (he : IsLeaf e) :
    finished (answerDraft e t) = e.setTail (given t) := by
  obtain ⟨tag, attrs, text, rfl⟩ := he
  have hdraft : answerDraft (.mk tag attrs (some text) [] none) t =
      .mk tag attrs (some (.mk true (Pieces.ofText text))) [] (runOf t) := rfl
  rw [hdraft, finished, runText_runOf, runText, marked_ofText, finishedAll]
  rfl

theorem finishedAll_answerDrafts (hleaf : ∀ letters ∈ namesOf as, IsLeaf (r letters)) :
    finishedAll (answerDrafts r as) = answers r as := by
  induction as with
  | nil => rfl
  | cons a as ih =>
    cases a with
    | char c => exact ih hleaf
    | name letters =>
      rw [answerDrafts, finishedAll, finished_answerDraft (hleaf letters List.mem_cons_self),
        ih fun l hl ↦ hleaf l (List.mem_cons_of_mem _ hl)]
      rfl

/-- **The paragraphs of a document are read by answering the names in them**, each asked for once
and in the order in which they stand. -/
theorem read_paragraphs (hsetting : setting = ⟨[], some resolve⟩) (hps : ∀ p ∈ ps, IsRunning p)
    (hr : ∀ letters ∈ ps.flatMap namesOf, resolve letters = some (r letters))
    (hleaf : ∀ letters ∈ ps.flatMap namesOf, IsLeaf (r letters)) :
    read setting (.mk "div" [] none (ps.map fun p ↦ .ofText "p" (sourceOf p)) none) trace =
      (.mk "div" [] none (ps.map (paragraphOf r)) none,
        { trace with
          names := trace.names ++ ps.flatMap namesOf
          next := trace.next + (ps.flatMap namesOf).length }) := by
  have hmem {p : List Atom} (hp : p ∈ ps) {letters : Text} (hl : letters ∈ namesOf p) :
      letters ∈ ps.flatMap namesOf := List.mem_flatMap.mpr ⟨p, hp, hl⟩
  have hread := @read_of_isRead setting trace (List Atom) ps sourceOf
    (fun p ↦ ⟨runOf (lead p), answerDrafts r p, namesOf p, (namesOf p).length⟩)
    fun p hp ↦ isRead_sourceOf hsetting (hps p hp) (fun l hl ↦ hr l (hmem hp hl))
      fun l hl ↦ hleaf l (hmem hp hl)
  have helement : ps.map (fun p ↦
      .mk "p" [] (runText (runOf (lead p))) (finishedAll (answerDrafts r p)) none) =
        ps.map (paragraphOf r) :=
    List.map_congr_left fun p hp ↦ by
      rw [runText_runOf, finishedAll_answerDrafts fun l hl ↦ hleaf l (hmem hp hl), paragraphOf]
  rw [hread, helement, List.length_flatMap]

end ApiSite.Markup.Inline
