import ApiSite.Proofs.Doc.Prose

/-!
# Punctuation behind backslashes

Text of letters and of punctuation with a backslash before it. Each of its lines begins with a
letter or with a backslash, and no heading, list, rule, quotation or fence begins so
(`BeginsPlainly`). Only tables look further into a line: but every bar stands behind a backslash of
its own, so none divides two cells (`scanFrom_pipes_signs`), and the backslashes before a bar at the
end of a line are odd in number, so it is no border (`hasRightBorder_signs`). Hence a source of such
text is its paragraphs (`EscapedText.parse_source`).
-/

set_option autoImplicit false

namespace ApiSite.Markup

open Doc (Many IsSpaced)
open Text (lines unlines startsWith)
open Inline.Rule (escapable)

/-! ### The texts -/

/-- A character that stands for itself, or one behind a backslash. -/
inductive Sign where
  | plain (c : Char)
  | escaped (c : Char)

namespace Sign

/-- Whether a sign is white space. -/
def isBlank : Sign → Bool
  | plain c => Text.isBlank c
  | escaped _ => false

/-- A sign as it stands in a source. -/
def source : Sign → Text
  | plain c => [c]
  | escaped c => ['\\', c]

/-- A sign as it stands in a tree. -/
def marked : Sign → Text
  | plain c => [c]
  | escaped c => Mark.escaped c

end Sign

/-- Signs as they stand in a source. -/
def sourceOfSigns (ss : List Sign) : Text := ss.flatMap Sign.source

/-- Signs as they stand in a tree. -/
def markedOfSigns (ss : List Sign) : Text := ss.flatMap Sign.marked

/-- A word of letters and escaped punctuation. -/
structure EscapedWord where
  signs : List Sign
  signs_ne_nil : signs ≠ []
  isAlpha : ∀ {c : Char}, .plain c ∈ signs → c.isAlpha = true
  escapable : ∀ {c : Char}, .escaped c ∈ signs → c ∈ escapable

abbrev EscapedLine := Many EscapedWord

abbrev EscapedParagraph := Many EscapedLine

abbrev EscapedText := Many EscapedParagraph

def EscapedLine.signs (l : EscapedLine) : List Sign := l.joined [.plain ' '] EscapedWord.signs

def EscapedParagraph.signs (p : EscapedParagraph) : List Sign :=
  p.joined [.plain '\n'] EscapedLine.signs

/-- A text as it stands in a documentation text. -/
def EscapedText.source (d : EscapedText) : Text :=
  d.joined ['\n', '\n'] fun p ↦ sourceOfSigns (EscapedParagraph.signs p)

/-- Letters, spaces, line feeds and escaped punctuation. -/
structure IsSigned (ss : List Sign) : Prop where
  plain : ∀ {c : Char}, .plain c ∈ ss → c.isAlpha = true ∨ c = ' ' ∨ c = '\n'
  escaped : ∀ {c : Char}, .escaped c ∈ ss → c ∈ escapable

/-- Words of letters and escaped punctuation with single blanks between them. -/
structure IsEscaped (ss : List Sign) : Prop extends IsSigned ss, IsSpaced Sign.isBlank ss

variable {ss : List Sign} {s t line : Text} {c x : Char} {pos : Nat}

/-! ### Signs -/

theorem IsSigned.of_cons {a : Sign} (h : IsSigned (a :: ss)) : IsSigned ss :=
  ⟨fun hc ↦ h.plain (List.mem_cons_of_mem _ hc), fun hc ↦ h.escaped (List.mem_cons_of_mem _ hc)⟩

theorem IsSigned.of_append_left {ss' : List Sign} (h : IsSigned (ss ++ ss')) : IsSigned ss :=
  ⟨fun hc ↦ h.plain (List.mem_append_left _ hc), fun hc ↦ h.escaped (List.mem_append_left _ hc)⟩

theorem IsSigned.ne_of_plain (h : IsSigned ss) (hc : .plain c ∈ ss) (hx : x.isAlpha = false)
    (hspace : ' ' ≠ x) (hfeed : '\n' ≠ x) : c ≠ x := by
  rcases h.plain hc with halpha | rfl | rfl
  · exact ne_of_isAlpha halpha hx
  · exact hspace
  · exact hfeed

theorem isSigned_joined {α : Type} {m : Many α} {g : α → List Sign} (hg : ∀ a, IsSigned (g a))
    (hc : c = ' ' ∨ c = '\n') : IsSigned (m.joined [.plain c] g) := by
  refine ⟨fun {d} hd ↦ ?_, fun {d} hd ↦ ?_⟩
  · rcases Doc.mem_joined hd with heq | ⟨a, -, hd⟩
    · cases List.mem_singleton.mp heq
      exact Or.inr hc
    · exact (hg a).plain hd
  · rcases Doc.mem_joined hd with heq | ⟨a, -, hd⟩
    · cases List.mem_singleton.mp heq
    · exact (hg a).escaped hd

theorem isEscaped_joined {α : Type} {m : Many α} {g : α → List Sign} (hg : ∀ a, IsEscaped (g a))
    (hc : c = ' ' ∨ c = '\n') : IsEscaped (m.joined [.plain c] g) :=
  { isSigned_joined (fun a ↦ (hg a).toIsSigned) hc,
    Doc.isSpaced_joined fun a ↦ (hg a).toIsSpaced with }

theorem EscapedWord.isEscaped_signs (w : EscapedWord) : IsEscaped w.signs := by
  have hspaced : IsSpaced Sign.isBlank w.signs := by
    refine Doc.isSpaced_of_all w.signs_ne_nil fun a ha ↦ ?_
    cases a with
    | plain c => exact isBlank_of_isAlpha (w.isAlpha ha)
    | escaped c => rfl
  exact { hspaced with plain := fun hc ↦ Or.inl (w.isAlpha hc), escaped := w.escapable }

theorem EscapedLine.isEscaped_signs (l : EscapedLine) : IsEscaped (EscapedLine.signs l) :=
  isEscaped_joined EscapedWord.isEscaped_signs (Or.inl rfl)

theorem EscapedParagraph.isEscaped_signs (p : EscapedParagraph) :
    IsEscaped (EscapedParagraph.signs p) :=
  isEscaped_joined EscapedLine.isEscaped_signs (Or.inr rfl)

/-! ### Sources -/

/-- The characters of sources. -/
def isSignChar (c : Char) : Bool :=
  c.isAlpha || c == ' ' || c == '\n' || escapable.contains c

theorem isBlank_of_mem_escapable (hc : c ∈ escapable) : Text.isBlank c = false := by
  have hall : escapable.all (!Text.isBlank ·) = true := rfl
  simpa using List.all_eq_true.mp hall c hc

theorem mem_sourceOfSigns (hx : x ∈ sourceOfSigns ss) :
    .plain x ∈ ss ∨ x = '\\' ∨ .escaped x ∈ ss := by
  obtain ⟨a, ha, hx⟩ := List.mem_flatMap.mp hx
  cases a with
  | plain c =>
    rw [List.mem_singleton.mp hx]
    exact Or.inl ha
  | escaped c =>
    rcases List.mem_cons.mp hx with rfl | hx
    · exact Or.inr (Or.inl rfl)
    · rw [List.mem_singleton.mp hx]
      exact Or.inr (Or.inr ha)

theorem IsSigned.isSignChar (h : IsSigned ss) (hx : x ∈ sourceOfSigns ss) :
    Markup.isSignChar x = true := by
  rcases mem_sourceOfSigns hx with hx | rfl | hx
  · rcases h.plain hx with halpha | rfl | rfl
    · simp [Markup.isSignChar, halpha]
    · rfl
    · rfl
  · rfl
  · simp [Markup.isSignChar, h.escaped hx]

/-- A text begins with a letter or with a backslash. -/
def BeginsPlainly (t : Text) : Prop := ∃ c s, t = c :: s ∧ (c.isAlpha = true ∨ c = '\\')

theorem IsEscaped.beginsPlainly (h : IsEscaped ss) : BeginsPlainly (sourceOfSigns ss) := by
  obtain ⟨a, rest, rfl, hblank⟩ := h.head
  cases a with
  | escaped c => exact ⟨'\\', c :: sourceOfSigns rest, rfl, Or.inr rfl⟩
  | plain c =>
    refine ⟨c, sourceOfSigns rest, rfl, ?_⟩
    rcases h.plain List.mem_cons_self with halpha | rfl | rfl
    · exact Or.inl halpha
    · cases hblank
    · cases hblank

theorem IsEscaped.exists_last (h : IsEscaped ss) :
    ∃ t c, sourceOfSigns ss = t ++ [c] ∧ Text.isBlank c = false := by
  obtain ⟨before, a, rfl, hblank⟩ := h.last
  cases a with
  | plain c => exact ⟨sourceOfSigns before, c, by simp [sourceOfSigns, Sign.source], hblank⟩
  | escaped c =>
    exact ⟨sourceOfSigns before ++ ['\\'], c, by simp [sourceOfSigns, Sign.source],
      isBlank_of_mem_escapable (h.escaped List.mem_concat_self)⟩

theorem IsEscaped.noTwoBlanks (h : IsEscaped ss) : NoTwoBlanks (sourceOfSigns ss) := by
  refine noTwoBlanks_flatMap (fun a _ hblank ↦ ?_) (fun a ha hblank ↦ ?_) h.single
  · cases a with
    | plain c => exact ⟨c, rfl⟩
    | escaped c => cases hblank
  · cases a with
    | plain c => exact ⟨List.cons_ne_nil c [], fun d hd ↦ by rwa [List.mem_singleton.mp hd]⟩
    | escaped c =>
      refine ⟨List.cons_ne_nil _ _, fun d hd ↦ ?_⟩
      rcases List.mem_cons.mp hd with rfl | hd
      · rfl
      · rw [List.mem_singleton.mp hd]
        exact isBlank_of_mem_escapable (h.escaped ha)

theorem EscapedLine.newline_not_mem_source (l : EscapedLine) :
    '\n' ∉ sourceOfSigns (EscapedLine.signs l) := by
  intro hmem
  rcases mem_sourceOfSigns hmem with hmem | heq | hmem
  · rcases Doc.mem_joined hmem with hmem | ⟨w, -, hmem⟩
    · simp at hmem
    · exact absurd (w.isAlpha hmem) Bool.false_ne_true
  · cases heq
  · have hblank := isBlank_of_mem_escapable ((EscapedLine.isEscaped_signs l).escaped hmem)
    cases hblank

/-- The lines of a paragraph. -/
theorem EscapedParagraph.lines_source (p : EscapedParagraph) :
    lines (sourceOfSigns (EscapedParagraph.signs p)) =
      p.toList.map fun l ↦ sourceOfSigns (EscapedLine.signs l) := by
  have hjoin : sourceOfSigns (EscapedParagraph.signs p) =
      Text.join ['\n'] (p.toList.map fun l ↦ sourceOfSigns (EscapedLine.signs l)) := by
    rw [Doc.join_toList, sourceOfSigns, EscapedParagraph.signs, Doc.flatMap_joined]
    rfl
  rw [hjoin]
  refine Text.splitOn_join (mt List.map_eq_nil_iff.mp (List.cons_ne_nil _ _)) fun line hline ↦ ?_
  obtain ⟨l, -, rfl⟩ := List.mem_map.mp hline
  exact EscapedLine.newline_not_mem_source l

/-! ### What begins with a letter or a backslash -/

theorem BeginsPlainly.ne (h : BeginsPlainly (c :: t)) (hx : x.isAlpha = false) (hslash : '\\' ≠ x) :
    c ≠ x := by
  obtain ⟨d, s, heq, hd⟩ := h
  obtain ⟨rfl, rfl⟩ := List.cons.inj heq
  rcases hd with hd | rfl
  · exact ne_of_isAlpha hd hx
  · exact hslash

theorem BeginsPlainly.exists_eq (h : BeginsPlainly t) : ∃ c s, t = c :: s := by
  obtain ⟨c, s, rfl, -⟩ := h
  exact ⟨c, s, rfl⟩

theorem beginsPlainly_of_lines (h : ∀ line ∈ lines t, BeginsPlainly line) : BeginsPlainly t := by
  obtain ⟨first, rest, hlines⟩ := List.exists_cons_of_ne_nil (Text.splitOn_ne_nil '\n' t)
  obtain ⟨c, s, rfl, hc⟩ := h first (by rw [lines, hlines]; exact List.mem_cons_self)
  obtain ⟨t, rfl⟩ := List.head?_eq_some_iff.mp (Text.head?_of_splitOn_eq hlines rfl)
  exact ⟨c, t, rfl, hc⟩

theorem BeginsPlainly.indentOf_eq (h : BeginsPlainly t) : Block.indentOf t = 0 := by
  obtain ⟨c, t, rfl⟩ := h.exists_eq
  have hspace : c ≠ ' ' := h.ne rfl (by decide)
  simp [Block.indentOf, Text.countStart, Block.isSpace, hspace]

theorem BeginsPlainly.opener?_eq_none (h : BeginsPlainly t) : Fence.opener? t = none := by
  have hindent : Text.countStart (· == ' ') t = 0 := h.indentOf_eq
  obtain ⟨c, t, rfl⟩ := h.exists_eq
  have htick : c ≠ '\x60' := h.ne rfl (by decide)
  have htilde : c ≠ '~' := h.ne rfl (by decide)
  rw [Fence.opener?, hindent]
  simp [htick, htilde]

namespace Block

theorem headingAt?_of_beginsPlainly (h : BeginsPlainly t) : headingAt? t = none := by
  obtain ⟨c, t, rfl⟩ := h.exists_eq
  have hmark : c ≠ '#' := h.ne rfl (by decide)
  simp [headingAt?, Text.countStart, hmark]

theorem isRule_of_beginsPlainly (h : BeginsPlainly t) : isRule t = false := by
  have hindent := h.indentOf_eq
  obtain ⟨c, t, rfl⟩ := h.exists_eq
  have hdash : c ≠ '-' := h.ne rfl (by decide)
  have hunder : c ≠ '_' := h.ne rfl (by decide)
  have hstar : c ≠ '*' := h.ne rfl (by decide)
  simp [isRule, hindent, hdash, hunder, hstar]

theorem startsList_of_beginsPlainly {kind : Marker} (h : BeginsPlainly t) :
    startsList kind t = false := by
  have hindent := h.indentOf_eq
  obtain ⟨c, t, rfl, hc⟩ := h
  have hbegins : BeginsPlainly (c :: t) := ⟨c, t, rfl, hc⟩
  have hbullet : ¬(c = '*' ∨ c = '+' ∨ c = '-') := by
    rintro (rfl | rfl | rfl)
    · exact hbegins.ne rfl (by decide) rfl
    · exact hbegins.ne rfl (by decide) rfl
    · exact hbegins.ne rfl (by decide) rfl
  have hdigit : Text.isDecimal c = false := by
    rcases hc with hc | rfl
    · exact isDecimal_eq_false (by simp [isPlain, hc])
    · rfl
  have hmarker : marker? (c :: t) = none := by simp [marker?, hbullet, hdigit]
  simp [startsList, indentedMarker?, hindent, hmarker]

theorem afterQuoteMark?_of_beginsPlainly (h : BeginsPlainly t) : afterQuoteMark? t = none := by
  have hindent := h.indentOf_eq
  obtain ⟨c, t, rfl⟩ := h.exists_eq
  have hmark : c ≠ '>' := h.ne rfl (by decide)
  rw [afterQuoteMark?, hindent, if_pos (Nat.zero_le 3), List.drop_zero]
  split
  · next heq => exact absurd (List.cons.inj heq).1 hmark
  · next heq => exact absurd (List.cons.inj heq).1 hmark
  · rfl

theorem underlined?_of_beginsPlainly (h : ∀ line ∈ lines t, BeginsPlainly line) :
    underlined? t = none := by
  rw [underlined?]
  split
  · next title line rest hlines =>
    have hbegins : BeginsPlainly line := h line (by simp [hlines])
    obtain ⟨c, s, rfl⟩ := hbegins.exists_eq
    have hdouble : c ≠ '=' := hbegins.ne rfl (by decide)
    have hsingle : c ≠ '-' := hbegins.ne rfl (by decide)
    simp [startsWith, List.isPrefixOf_cons_cons, hdouble.symm, hsingle.symm]
  · rfl

theorem atLineStarts_beginsPlainly {p : Text → Prop} (hp : ∀ s, BeginsPlainly s → p s)
    (h : ∀ line ∈ lines t, BeginsPlainly line) : AtLineStarts p t := by
  refine ⟨hp t (beginsPlainly_of_lines h), fun s hs ↦ hp s (beginsPlainly_of_lines ?_)⟩
  obtain ⟨before, rfl⟩ := hs
  rw [lines, Text.splitOn_append_cons] at h
  exact fun line hline ↦ h line (List.mem_append_right _ hline)

/-! ### Bars -/

/-- Signs begin with no punctuation but a backslash. -/
theorem countStart_tick_signs (h : IsSigned ss) :
    Text.countStart (· == '\x60') (sourceOfSigns ss) = 0 := by
  cases ss with
  | nil => rfl
  | cons a ss =>
    cases a with
    | escaped c => rfl
    | plain c =>
      have htick : c ≠ '\x60' := h.ne_of_plain List.mem_cons_self rfl (by decide) (by decide)
      simp [sourceOfSigns, Sign.source, Text.countStart, htick]

/-- The bar behind a backslash divides no cells, and there is no other bar. -/
theorem scanFrom_pipes_signs (h : IsSigned ss) :
    (TableRow.scanFrom pos 0 (sourceOfSigns ss)).pipes = [] := by
  induction ss generalizing pos with
  | nil => rfl
  | cons a ss ih =>
    have hrest (pos : Nat) : (TableRow.scanFrom pos 0 (sourceOfSigns ss)).pipes = [] := ih h.of_cons
    cases a with
    | plain c =>
      have hne {x : Char} (hx : x.isAlpha = false) (hspace : ' ' ≠ x) (hfeed : '\n' ≠ x) : c ≠ x :=
        h.ne_of_plain List.mem_cons_self hx hspace hfeed
      have hbar : c ≠ '|' := hne rfl (by decide) (by decide)
      have hsource : sourceOfSigns (.plain c :: ss) = c :: sourceOfSigns ss := rfl
      rw [hsource, TableRow.scanFrom_cons (hne rfl (by decide) (by decide))
        (hne rfl (by decide) (by decide))]
      simp only [hbar, if_false, hrest]
    | escaped c =>
      have hsource : sourceOfSigns (.escaped c :: ss) = '\\' :: c :: sourceOfSigns ss := rfl
      have hskip : (TableRow.scanFrom (pos + 1) 1 (c :: sourceOfSigns ss)).pipes = [] := by
        rw [TableRow.scanFrom, hrest]
      rw [hsource]
      by_cases hslash : c = '\\'
      · rw [hslash] at hskip ⊢
        exact hskip
      by_cases hbar : c = '|'
      · rw [hbar] at hskip ⊢
        exact hskip
      by_cases htick : c = '\x60'
      · have hcount : Text.countStart (· == '\x60') ('\x60' :: sourceOfSigns ss) = 1 := by
          have hnone := countStart_tick_signs h.of_cons
          rw [Text.countStart] at hnone ⊢
          rw [List.takeWhile_cons_of_pos rfl, List.length_cons, hnone]
        rw [htick] at hskip ⊢
        rw [TableRow.scanFrom.eq_def]
        simp only [if_true, hcount, hskip]
      · have hnext : (TableRow.scanFrom (pos + 1) 0 (c :: sourceOfSigns ss)).pipes = [] := by
          rw [TableRow.scanFrom_cons hslash htick]
          simp only [hbar, if_false, hrest]
        rw [TableRow.scanFrom.eq_def]
        simp only [if_true]
        split
        · next heq => exact absurd (List.cons.inj heq).1 hslash
        · next heq => exact absurd (List.cons.inj heq).1 hbar
        · next heq => exact absurd (List.cons.inj heq).1 htick
        · exact hnext

/-- The backslashes at the end of signs come in pairs. -/
theorem countStart_reverse_signs (h : IsSigned ss) :
    Text.countStart (· == '\\') (sourceOfSigns ss).reverse % 2 = 0 := by
  induction ss using List.reverseRecOn with
  | nil => rfl
  | append_singleton ss a ih =>
    cases a with
    | plain c =>
      have hslash : c ≠ '\\' := h.ne_of_plain List.mem_concat_self rfl (by decide) (by decide)
      simp [sourceOfSigns, Sign.source, Text.countStart, hslash]
    | escaped c =>
      have hreverse : (sourceOfSigns (ss ++ [.escaped c])).reverse =
          c :: '\\' :: (sourceOfSigns ss).reverse := by simp [sourceOfSigns, Sign.source]
      rw [hreverse, Text.countStart]
      by_cases hslash : c = '\\'
      · have hpairs := ih h.of_append_left
        rw [Text.countStart] at hpairs
        rw [hslash, List.takeWhile_cons_of_pos rfl, List.takeWhile_cons_of_pos rfl,
          List.length_cons, List.length_cons]
        omega
      · rw [List.takeWhile_cons_of_neg (by simpa using hslash), List.length_nil]

/-- A bar at the end of signs stands behind an odd number of backslashes: it is no border. -/
theorem hasRightBorder_signs (h : IsSigned ss) :
    TableRow.hasRightBorder (sourceOfSigns ss) = false := by
  obtain rfl | ⟨before, a, rfl⟩ := List.eq_nil_or_concat ss
  · rfl
  rw [List.concat_eq_append] at h ⊢
  rw [TableRow.hasRightBorder]
  split
  · next t hreverse =>
    cases a with
    | plain c =>
      have hbar : c ≠ '|' := h.ne_of_plain List.mem_concat_self rfl (by decide) (by decide)
      have heq : (sourceOfSigns (before ++ [.plain c])).reverse =
          c :: (sourceOfSigns before).reverse := by simp [sourceOfSigns, Sign.source]
      rw [heq] at hreverse
      exact absurd (List.cons.inj hreverse).1 hbar
    | escaped c =>
      have heq : (sourceOfSigns (before ++ [.escaped c])).reverse =
          c :: '\\' :: (sourceOfSigns before).reverse := by simp [sourceOfSigns, Sign.source]
      rw [heq] at hreverse
      obtain ⟨-, rfl⟩ := List.cons.inj hreverse
      have hpairs := countStart_reverse_signs h.of_append_left
      rw [Text.countStart] at hpairs ⊢
      rw [List.takeWhile_cons_of_pos rfl, List.length_cons, beq_eq_false_iff_ne]
      omega
  · rfl

/-- Lines of escaped text are no table. -/
theorem layout?_signs {ls : List (List Sign)} (hls : ∀ ss ∈ ls, IsEscaped ss) :
    TableRow.layout? (ls.map sourceOfSigns) = none := by
  refine layout?_eq_none_of_header fun line hline ↦ ?_
  rw [List.head?_map, Option.mem_def, Option.map_eq_some_iff] at hline
  obtain ⟨ss, hss, rfl⟩ := hline
  have h := hls ss (List.mem_of_mem_head? hss)
  have htrim : Text.trim (· == ' ') (sourceOfSigns ss) = sourceOfSigns ss := by
    have hbegins := h.beginsPlainly
    obtain ⟨c, s, hhead⟩ := hbegins.exists_eq
    obtain ⟨t, d, hlast, hblank⟩ := h.exists_last
    have hstart : (c == ' ') = false :=
      beq_eq_false_iff_ne.mpr ((hhead ▸ hbegins).ne rfl (by decide))
    have hend : (d == ' ') = false := by
      rw [beq_eq_false_iff_ne]
      rintro rfl
      cases hblank
    rw [Text.trim, hhead, Text.trimStart_eq_self (p := (· == ' ')) hstart, ← hhead, hlast,
      Text.trimEnd_concat_of_false (p := (· == ' ')) hend]
  rw [htrim]
  refine ⟨?_, hasRightBorder_signs h.toIsSigned, scanFrom_pipes_signs h.toIsSigned⟩
  obtain ⟨c, s, hhead⟩ := h.beginsPlainly.exists_eq
  have hbar : c ≠ '|' := (hhead ▸ h.beginsPlainly).ne rfl (by decide)
  rw [hhead]
  simp [TableRow.hasLeftBorder, startsWith, List.isPrefixOf_cons_cons, hbar.symm]

end Block

/-! ### Paragraphs -/

namespace EscapedParagraph

variable {p : EscapedParagraph}

theorem beginsPlainly_of_mem_lines (hline : line ∈ lines (sourceOfSigns (signs p))) :
    BeginsPlainly line := by
  rw [lines_source] at hline
  obtain ⟨l, -, rfl⟩ := List.mem_map.mp hline
  exact (EscapedLine.isEscaped_signs l).beginsPlainly

/-- A paragraph of escaped text is one, wherever it stands. -/
theorem formOf_source (p : EscapedParagraph) {place : Block.Place} {parent : Element} :
    Block.formOf [] place parent (sourceOfSigns (signs p)) = .paragraph := by
  have hbegins : ∀ line ∈ lines (sourceOfSigns (signs p)), BeginsPlainly line :=
    fun _ ↦ beginsPlainly_of_mem_lines
  have hlayout : TableRow.layout? (lines (sourceOfSigns (signs p))) = none := by
    rw [lines_source, ← Function.comp_def, ← List.map_map]
    refine Block.layout?_signs fun ss hss ↦ ?_
    obtain ⟨l, -, rfl⟩ := List.mem_map.mp hss
    exact EscapedLine.isEscaped_signs l
  have hheading : Block.heading? (sourceOfSigns (signs p)) = none :=
    Block.heading?_eq_none_of_starts
      (Block.atLineStarts_beginsPlainly (fun _ ↦ Block.headingAt?_of_beginsPlainly) hbegins)
  have hunderlined := Block.underlined?_of_beginsPlainly hbegins
  have hrule : Block.rule? (lines (sourceOfSigns (signs p))) = none :=
    Block.rule?_eq_none_of_lines fun line hline ↦ Block.isRule_of_beginsPlainly (hbegins line hline)
  have hwhole := beginsPlainly_of_lines hbegins
  have hlist (kind : Block.Marker) : Block.startsList kind (sourceOfSigns (signs p)) = false :=
    Block.startsList_of_beginsPlainly hwhole
  have hquotation : Block.quotation? (sourceOfSigns (signs p)) = none :=
    Block.quotation?_eq_none_of_starts
      (Block.atLineStarts_beginsPlainly (fun _ ↦ Block.afterQuoteMark?_of_beginsPlainly) hbegins)
  have halert : Block.alertKind? ((sourceOfSigns (signs p)).takeWhile (· != '\n')) = none := by
    obtain ⟨c, s, hhead, hc⟩ := hwhole
    have hfeed : c ≠ '\n' := BeginsPlainly.ne ⟨c, s, rfl, hc⟩ rfl (by decide)
    rw [hhead, List.takeWhile_cons_of_pos (by simpa using hfeed), Block.alertKind?,
      Block.afterQuoteMark?_of_beginsPlainly ⟨c, _, rfl, hc⟩]
    rfl
  have hdefinition : Block.definition? true (sourceOfSigns (signs p)) = none :=
    Block.definition?_eq_none
      (Text.not_mem_of_all (fun _ ↦ (isEscaped_signs p).toIsSigned.isSignChar) rfl)
  obtain ⟨c, s, hhead⟩ := hwhole.exists_eq
  have hspace : c ≠ ' ' := (hhead ▸ hwhole).ne rfl (by decide)
  have hfeed : c ≠ '\n' := (hhead ▸ hwhole).ne rfl (by decide)
  rw [hhead] at hlayout hheading hunderlined hrule hlist hquotation halert hdefinition ⊢
  have hnest : startsWith (Text.spaces Block.nestWidth) (c :: s) = false := by
    simp [startsWith, List.replicate_succ, List.isPrefixOf_cons_cons, hspace.symm]
  have hcode : startsWith (Text.spaces Block.codeWidth) (c :: s) = false := by
    simp [startsWith, List.replicate_succ, List.isPrefixOf_cons_cons, hspace.symm]
  have hline : startsWith ['\n'] (c :: s) = false := by
    simp [startsWith, List.isPrefixOf_cons_cons, hfeed.symm]
  simp [Block.formOf, Block.isNested, hnest, hcode, hline, hlayout, hheading, hunderlined, hrule,
    hlist, hquotation, halert, hdefinition]

theorem isParagraph_source (p : EscapedParagraph) :
    Block.IsParagraph (sourceOfSigns (signs p)) := by
  have hhead : ∃ c s, sourceOfSigns (signs p) = c :: s ∧ Text.isBlank c = false := by
    obtain ⟨c, s, hsource, hc⟩ := (isEscaped_signs p).beginsPlainly
    refine ⟨c, s, hsource, ?_⟩
    rcases hc with hc | rfl
    · exact isBlank_of_isAlpha hc
    · rfl
  exact Block.isParagraph_of_noTwoBlanks hhead (isEscaped_signs p).exists_last
    (isEscaped_signs p).noTwoBlanks fun _ ↦ formOf_source p

end EscapedParagraph

namespace EscapedText

theorem source_append_blankLine (d : EscapedText) :
    source d ++ ['\n', '\n'] =
      (d.toList.map fun p ↦ sourceOfSigns (EscapedParagraph.signs p)).flatMap
        (· ++ ['\n', '\n']) := by
  have hne : (d.toList.map fun p ↦ sourceOfSigns (EscapedParagraph.signs p)) ≠ [] :=
    mt List.map_eq_nil_iff.mp (List.cons_ne_nil _ _)
  rw [source, ← Doc.join_toList, Text.join_append_sep hne]

/-- **A source of escaped text is its paragraphs.** -/
theorem parse_source (d : EscapedText) :
    Block.parse [] (source d ++ ['\n', '\n']) =
      (.mk "div" [] none (d.toList.map fun p ↦
        .ofText "p" (sourceOfSigns (EscapedParagraph.signs p))) none, []) := by
  rw [source_append_blankLine, Block.parse_of_isParagraph, List.map_map]
  · rfl
  · intro t ht
    obtain ⟨p, -, rfl⟩ := List.mem_map.mp ht
    exact EscapedParagraph.isParagraph_source p

end EscapedText

end ApiSite.Markup
