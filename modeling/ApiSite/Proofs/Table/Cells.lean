import ApiSite.Proofs.Table

/-!
# Escaping a cell twice

A cell is read from left to right in pieces: code spans, badges, escaped angle brackets, and single
characters. Every text has exactly one reading (`exists_reads`, `Reads.unique`). Escaping goes
through it piece by piece and puts a backslash before each angle bracket that is a piece of its own
(`escapeBrackets_text`).

What comes out is read in the same pieces (`Reads.escape`). A backtick without a partner still has
none, since none is added, and nothing is put behind a backslash that stood by itself, since no
bracket followed it. So no bracket is left that would be escaped once more (`escapeCell_stable`).
-/

set_option autoImplicit false

namespace ApiSite.Table

/-- An angle bracket. -/
def IsBracket (c : Char) : Prop := c = '<' ∨ c = '>'

instance (c : Char) : Decidable (IsBracket c) := inferInstanceAs (Decidable (_ ∨ _))

/-- What a cell is read in. -/
inductive Piece where
  | code (inside : Text)
  | badge (inside : Text)
  | escaped (bracket : Char)
  | single (c : Char)
  deriving DecidableEq

namespace Piece

/-- A piece as it stands in a cell. -/
def text : Piece → Text
  | code inside => '\x60' :: inside ++ ['\x60']
  | badge inside => '<' :: ("Badge " ++ inside ++ ['/', '>'])
  | escaped bracket => ['\\', bracket]
  | single c => [c]

/-- Whether a piece is read in front of a text: what it holds does not end it early, and a single
character opens no other piece. -/
def StandsBefore : Piece → Text → Prop
  | code inside, _ => '\x60' ∉ inside
  | badge inside, _ => ¬['/', '>'] <:+: inside
  | escaped bracket, _ => IsBracket bracket
  | single c, t =>
    (c = '\x60' → '\x60' ∉ t) ∧ (c = '\\' → ∀ d ∈ t.head?, ¬IsBracket d) ∧
      (c = '<' → "Badge ".toList <+: t → ¬['/', '>'] <:+: t)

/-- An angle bracket by itself. -/
def IsBare : Piece → Prop
  | single c => IsBracket c
  | code _ | badge _ | escaped _ => False

/-- A piece with a backslash before it if it is an angle bracket. -/
def escape : Piece → Piece
  | single c => if IsBracket c then escaped c else single c
  | code inside => code inside
  | badge inside => badge inside
  | escaped bracket => escaped bracket

/-- How much is copied for a piece; a single character is not. -/
def copied? : Piece → Option ℕ
  | single _ => none
  | p => some p.text.length

end Piece

/-- The cell that pieces make up. -/
def text (ps : List Piece) : Text := ps.flatMap Piece.text

/-- Pieces that a cell is read in. -/
def IsReading : List Piece → Prop
  | [] => True
  | p :: ps => p.StandsBefore (text ps) ∧ IsReading ps

/-- A reading of a text. -/
def Reads (t : Text) (ps : List Piece) : Prop := IsReading ps ∧ text ps = t

variable {a c : Char} {s t u cell inside : Text} {p q : Piece} {ps qs : List Piece}

theorem text_cons (p : Piece) (ps : List Piece) : text (p :: ps) = p.text ++ text ps := rfl

theorem Piece.escape_single_of_isBracket (h : IsBracket c) : (single c).escape = escaped c :=
  if_pos h

theorem Piece.escape_single_of_not (h : ¬IsBracket c) : (single c).escape = single c := if_neg h

theorem Piece.not_isBare_escape (p : Piece) : ¬p.escape.IsBare := by
  cases p with
  | code inside => exact id
  | badge inside => exact id
  | escaped bracket => exact id
  | single c =>
    by_cases h : IsBracket c
    · rw [escape_single_of_isBracket h]
      exact id
    · rwa [escape_single_of_not h]

theorem Piece.escape_eq_self (h : ¬p.IsBare) : p.escape = p := by
  cases p with
  | code inside => rfl
  | badge inside => rfl
  | escaped bracket => rfl
  | single c => exact escape_single_of_not h

/-! ### One piece -/

theorem codeSpanSize?_append (hinside : '\x60' ∉ inside) (t : Text) :
    codeSpanSize? ((Piece.code inside).text ++ t) = some (inside.length + 2) := by
  have htake : (inside ++ '\x60' :: t).takeWhile (· != '\x60') = inside :=
    Text.takeWhile_append_stop hinside
  have hlength : inside.length < (inside ++ '\x60' :: t).length := by
    rw [List.length_append, List.length_cons]
    omega
  have htext : (Piece.code inside).text ++ t = '\x60' :: (inside ++ '\x60' :: t) := by
    rw [Piece.text, List.cons_append, List.cons_append, List.append_assoc, List.singleton_append]
  rw [htext, codeSpanSize?, htake]
  exact if_pos hlength

theorem codeSpanSize?_of_ne (hc : c ≠ '\x60') : codeSpanSize? (c :: t) = none := by
  unfold codeSpanSize?
  split
  · next heq => exact absurd (List.cons.inj heq).1 hc
  · rfl

theorem codeSpanSize?_eq_none (hc : c = '\x60' → '\x60' ∉ t) : codeSpanSize? (c :: t) = none := by
  by_cases h : c = '\x60'
  · rw [h, codeSpanSize?, Text.takeWhile_ne_eq_self (hc h)]
    exact if_neg (Nat.lt_irrefl _)
  · exact codeSpanSize?_of_ne h

theorem escapedSize?_eq_none (hc : c = '\\' → ∀ d ∈ t.head?, ¬IsBracket d) :
    escapedSize? (c :: t) = none := by
  unfold escapedSize?
  split
  · next heq =>
    obtain ⟨hc', rfl⟩ := List.cons.inj heq
    exact absurd (Or.inl rfl) (hc hc' '<' rfl)
  · next heq =>
    obtain ⟨hc', rfl⟩ := List.cons.inj heq
    exact absurd (Or.inr rfl) (hc hc' '>' rfl)
  · rfl

theorem startsWith_badge_iff :
    Text.startsWith "<Badge " (c :: t) = true ↔ c = '<' ∧ "Badge ".toList <+: t := by
  rw [show ("<Badge " : Text) = '<' :: "Badge ".toList from rfl, Text.startsWith,
    List.isPrefixOf_iff_prefix, List.cons_prefix_cons, eq_comm]

theorem end_infix_badge_append : ['/', '>'] <:+: "Badge " ++ t ↔ ['/', '>'] <:+: t := by
  rw [show ("Badge " : Text) = ['B', 'a', 'd', 'g', 'e', ' '] from rfl]
  simp [List.infix_cons_iff, List.cons_prefix_cons]

theorem end_infix_open : ['/', '>'] <:+: '<' :: t ↔ ['/', '>'] <:+: t := by
  simp [List.infix_cons_iff, List.cons_prefix_cons]

theorem badgeSize?_append (hinside : ¬['/', '>'] <:+: inside) (t : Text) :
    badgeSize? ((Piece.badge inside).text ++ t) = some (Piece.badge inside).text.length := by
  have htext : (Piece.badge inside).text ++ t =
      ('<' :: ("Badge " ++ inside)) ++ '/' :: '>' :: t := by
    simp only [Piece.text, List.cons_append, List.append_assoc, List.nil_append]
  have hcut : Text.cut? ['/', '>'] ((Piece.badge inside).text ++ t) =
      some ('<' :: ("Badge " ++ inside), t) := by
    rw [htext]
    refine Text.cut?_append_pair (by decide) ?_
    rwa [end_infix_open, end_infix_badge_append]
  have hstart : Text.startsWith "<Badge " ((Piece.badge inside).text ++ t) = true := by
    rw [htext, List.cons_append]
    exact startsWith_badge_iff.mpr
      ⟨rfl, (List.prefix_append _ inside).trans (List.prefix_append _ _)⟩
  rw [badgeSize?, if_pos hstart, show ("/>" : Text) = ['/', '>'] from rfl, hcut]
  simp only [Piece.text, Option.map_some, List.length_cons, List.length_append, List.length_nil]

theorem badgeSize?_eq_none (hc : c = '<' → "Badge ".toList <+: t → ¬['/', '>'] <:+: t) :
    badgeSize? (c :: t) = none := by
  rw [badgeSize?]
  split
  · next hstart =>
    obtain ⟨rfl, hbadge⟩ := startsWith_badge_iff.mp hstart
    have hend : ¬['/', '>'] <:+: '<' :: t := mt end_infix_open.mp (hc rfl hbadge)
    rw [show ("/>" : Text) = ['/', '>'] from rfl, Text.cut?_eq_none (List.cons_ne_nil _ _) hend]
    rfl
  · rfl

/-- What stands in front of a text decides how much of it is copied. -/
theorem copiedSize?_text_append (hp : p.StandsBefore t) :
    copiedSize? (p.text ++ t) = p.copied? := by
  cases p with
  | code inside =>
    rw [copiedSize?, codeSpanSize?_append hp]
    simp [Piece.copied?, Piece.text]
  | badge inside =>
    have hcode : codeSpanSize? ((Piece.badge inside).text ++ t) = none :=
      codeSpanSize?_eq_none fun h ↦ absurd h (by decide)
    have hescaped : escapedSize? ((Piece.badge inside).text ++ t) = none :=
      escapedSize?_eq_none fun h ↦ absurd h (by decide)
    rw [copiedSize?, hcode, hescaped, badgeSize?_append hp]
    rfl
  | escaped bracket =>
    rcases hp with rfl | rfl <;> rfl
  | single c =>
    obtain ⟨hcode, hescaped, hbadge⟩ := hp
    show copiedSize? (c :: t) = none
    rw [copiedSize?, codeSpanSize?_eq_none hcode, escapedSize?_eq_none hescaped,
      badgeSize?_eq_none hbadge]
    rfl

/-! ### Readings -/

/-- Some piece is read in front of every text. -/
theorem exists_standsBefore (c : Char) (t : Text) :
    ∃ (p : Piece) (u : Text), c :: t = p.text ++ u ∧ p.StandsBefore u := by
  by_cases hcode : c = '\x60' ∧ '\x60' ∈ t
  · obtain ⟨rfl, hmem⟩ := hcode
    obtain ⟨inside, u, rfl, hinside⟩ := List.eq_append_cons_of_mem hmem
    exact ⟨.code inside, u, by simp [Piece.text], hinside⟩
  by_cases hescaped : c = '\\' ∧ ∃ d ∈ t.head?, IsBracket d
  · obtain ⟨rfl, d, hhead, hd⟩ := hescaped
    obtain ⟨u, rfl⟩ := List.head?_eq_some_iff.mp hhead
    exact ⟨.escaped d, u, rfl, hd⟩
  by_cases hbadge : c = '<' ∧ "Badge ".toList <+: t ∧ ['/', '>'] <:+: t
  · obtain ⟨rfl, ⟨rest, rfl⟩, hend⟩ := hbadge
    obtain ⟨inside, u, rfl, hinside⟩ :=
      Text.exists_first_infix (List.cons_ne_nil _ _) (end_infix_badge_append.mp hend)
    exact ⟨.badge inside, u, by simp [Piece.text], hinside⟩
  refine ⟨.single c, t, rfl, fun hc hmem ↦ hcode ⟨hc, hmem⟩,
    fun hc d hd hbracket ↦ hescaped ⟨hc, d, hd, hbracket⟩,
    fun hc hstart hend ↦ hbadge ⟨hc, hstart, hend⟩⟩

theorem length_text_pos (p : Piece) : 0 < p.text.length := by
  cases p <;> simp [Piece.text]

/-- Every text can be read. -/
theorem exists_reads (t : Text) : ∃ ps, Reads t ps := by
  induction hlength : t.length using Nat.strong_induction_on generalizing t with
  | _ n ih =>
    cases t with
    | nil => exact ⟨[], trivial, rfl⟩
    | cons c t =>
      obtain ⟨p, u, htext, hp⟩ := exists_standsBefore c t
      have hshorter : u.length < n := by
        have hpos := length_text_pos p
        rw [← hlength, htext, List.length_append]
        omega
      obtain ⟨ps, hps, rfl⟩ := ih u.length hshorter u rfl
      exact ⟨p :: ps, ⟨hp, hps⟩, htext.symm⟩

theorem Piece.length_text (p : Piece) : p.text.length = p.copied?.getD 1 := by
  cases p <;> rfl

theorem Piece.eq_of_text_eq (hcopied : p.copied? = q.copied?) (h : p.text = q.text) : p = q := by
  cases p <;> cases q <;> simp_all [Piece.text, Piece.copied?]

/-- What a text begins with is read in one way. -/
theorem eq_of_text_append_eq (hp : p.StandsBefore t) (hq : q.StandsBefore u)
    (h : p.text ++ t = q.text ++ u) : p = q := by
  -- How much is copied depends on the text alone, so that both pieces have one length.
  have hcopied : p.copied? = q.copied? := by
    rw [← copiedSize?_text_append hp, ← copiedSize?_text_append hq, h]
  have hlength : p.text.length = q.text.length := by
    rw [Piece.length_text, Piece.length_text, hcopied]
  exact Piece.eq_of_text_eq hcopied (List.append_inj_left h hlength)

theorem text_cons_ne_nil (p : Piece) (ps : List Piece) : text (p :: ps) ≠ [] := by
  rw [text_cons]
  exact List.append_ne_nil_of_left_ne_nil (List.ne_nil_of_length_pos (length_text_pos p)) _

/-- A text has one reading. -/
theorem IsReading.eq_of_text_eq (hps : IsReading ps) (hqs : IsReading qs)
    (h : text ps = text qs) : ps = qs := by
  induction ps generalizing qs with
  | nil =>
    cases qs with
    | nil => rfl
    | cons q qs => exact absurd h.symm (text_cons_ne_nil q qs)
  | cons p ps ih =>
    cases qs with
    | nil => exact absurd h (text_cons_ne_nil p ps)
    | cons q qs =>
      rw [text_cons, text_cons] at h
      obtain rfl := eq_of_text_append_eq hps.1 hqs.1 h
      rw [ih hps.2 hqs.2 (List.append_cancel_left h)]

/-! ### Escaping -/

theorem escapeBrackets_append (s t : Text) :
    escapeBrackets s.length (s ++ t) = s ++ escapeBrackets 0 t := by
  induction s with
  | nil => rfl
  | cons c s ih => rw [List.length_cons, List.cons_append, escapeBrackets, ih]; rfl

theorem escapeBrackets_of_copied (h : copiedSize? (c :: s ++ t) = some (c :: s).length) :
    escapeBrackets 0 (c :: s ++ t) = c :: s ++ escapeBrackets 0 t := by
  rw [List.cons_append] at h ⊢
  rw [escapeBrackets, h]
  exact congrArg (c :: ·) (escapeBrackets_append s t)

/-- Escaping goes through a text piece by piece. -/
theorem escapeBrackets_text_append (hp : p.StandsBefore t) :
    escapeBrackets 0 (p.text ++ t) = p.escape.text ++ escapeBrackets 0 t := by
  have hcopied := copiedSize?_text_append hp
  cases p with
  | code inside => exact escapeBrackets_of_copied hcopied
  | badge inside => exact escapeBrackets_of_copied hcopied
  | escaped bracket => exact escapeBrackets_of_copied hcopied
  | single c =>
    have hstep : escapeBrackets 0 (c :: t) =
        if c = '<' then '\\' :: '<' :: escapeBrackets 0 t
        else if c = '>' then '\\' :: '>' :: escapeBrackets 0 t
        else c :: escapeBrackets 0 t := by
      rw [escapeBrackets, show copiedSize? (c :: t) = none from hcopied]
    show escapeBrackets 0 (c :: t) = _
    rw [hstep]
    by_cases hopen : c = '<'
    · rw [if_pos hopen, Piece.escape_single_of_isBracket (Or.inl hopen), hopen]
      rfl
    · by_cases hclose : c = '>'
      · rw [if_neg hopen, if_pos hclose, Piece.escape_single_of_isBracket (Or.inr hclose), hclose]
        rfl
      · rw [if_neg hopen, if_neg hclose, Piece.escape_single_of_not (not_or.mpr ⟨hopen, hclose⟩)]
        rfl

theorem escapeBrackets_text (hps : IsReading ps) :
    escapeBrackets 0 (text ps) = text (ps.map Piece.escape) := by
  induction ps with
  | nil => rfl
  | cons p ps ih =>
    rw [text_cons, escapeBrackets_text_append hps.1, ih hps.2]
    rfl

theorem head?_escapeBrackets (k : ℕ) (t : Text) :
    ∀ d ∈ (escapeBrackets k t).head?, d = '\\' ∨ d ∈ t.head? := by
  fun_cases escapeBrackets k t with
  | case1 => exact fun d hd ↦ Or.inr hd
  | case2 k c t => exact fun d hd ↦ Or.inr hd
  | case3 c t size hcopied => exact fun d hd ↦ Or.inr hd
  | case4 t hcopied => exact fun d hd ↦ Or.inl (Option.some.inj hd).symm
  | case5 t hcopied hopen => exact fun d hd ↦ Or.inl (Option.some.inj hd).symm
  | case6 c t hcopied hopen hclose => exact fun d hd ↦ Or.inr hd

/-- A piece is read as it was, or as an escaped bracket, in front of what has been escaped. -/
theorem Piece.StandsBefore.escape (hp : p.StandsBefore t) :
    p.escape.StandsBefore (escapeBrackets 0 t) := by
  cases p with
  | code inside => exact hp
  | badge inside => exact hp
  | escaped bracket => exact hp
  | single c =>
    by_cases h : IsBracket c
    · rw [escape_single_of_isBracket h]
      exact h
    · obtain ⟨hcode, hescaped, -⟩ := hp
      rw [escape_single_of_not h]
      refine ⟨fun hc ↦ mt (mem_escapeBrackets_iff (by decide)).mp (hcode hc),
        fun hc d hd hbracket ↦ ?_, fun hc ↦ absurd (Or.inl hc) h⟩
      rcases head?_escapeBrackets 0 t d hd with rfl | hd
      · exact absurd hbracket (by decide)
      · exact hescaped hc d hd hbracket

/-- What has been escaped is read in the same pieces, its bare brackets apart. -/
theorem IsReading.map_escape (hps : IsReading ps) : IsReading (ps.map Piece.escape) := by
  induction ps with
  | nil => trivial
  | cons p ps ih =>
    refine ⟨?_, ih hps.2⟩
    rw [← escapeBrackets_text hps.2]
    exact hps.1.escape

theorem Reads.escape (h : Reads t ps) : Reads (escapeBrackets 0 t) (ps.map Piece.escape) := by
  obtain ⟨hps, rfl⟩ := h
  exact ⟨hps.map_escape, (escapeBrackets_text hps).symm⟩

theorem Reads.unique (hps : Reads t ps) (hqs : Reads t qs) : ps = qs :=
  hps.1.eq_of_text_eq hqs.1 (hps.2.trans hqs.2.symm)

/-- What has been escaped once holds no bracket that is still to be escaped. -/
theorem not_isBare_of_reads (h : Reads (escapeBrackets 0 t) ps) : ∀ p ∈ ps, ¬p.IsBare := by
  obtain ⟨qs, hqs⟩ := exists_reads t
  obtain rfl := h.unique hqs.escape
  intro p hp
  obtain ⟨q, -, rfl⟩ := List.mem_map.mp hp
  exact q.not_isBare_escape

/-- Where no bracket is to be escaped, escaping does nothing. -/
theorem escapeBrackets_eq_self (h : Reads t ps) (hps : ∀ p ∈ ps, ¬p.IsBare) :
    escapeBrackets 0 t = t := by
  have hmap : ps.map Piece.escape = ps.map id :=
    List.map_congr_left fun p hp ↦ Piece.escape_eq_self (hps p hp)
  rw [← h.escape.2, hmap, List.map_id, h.2]

theorem escapeBrackets_escapeBrackets (t : Text) :
    escapeBrackets 0 (escapeBrackets 0 t) = escapeBrackets 0 t := by
  obtain ⟨ps, hps⟩ := exists_reads (escapeBrackets 0 t)
  exact escapeBrackets_eq_self hps (not_isBare_of_reads hps)

/-! ### Cells -/

theorem escapeCell_of_notMem (hcell : '|' ∉ cell) : escapeCell cell = escapeBrackets 0 cell := by
  rw [escapeCell, Text.replace_eq_self (show '|' ∈ ("|" : Text) by decide) hcell]

/-- A bar with something in front of it stands behind a backslash. -/
theorem IsGuarded.getLast?_eq {before after : Text}
    (h : IsGuarded (a :: (before ++ '|' :: after))) (ha : a ≠ '\\') :
    before.getLast? = some '\\' := by
  rw [IsGuarded, ← List.cons_append, List.isChain_append] at h
  have hlast : ∀ x ∈ (a :: before).getLast?, x = '\\' := fun x hx ↦ h.2.2 x hx '|' rfl rfl
  cases before with
  | nil => exact absurd (hlast a rfl) ha
  | cons b before =>
    have hsome := List.getLast?_eq_some_getLast (List.cons_ne_nil b before)
    exact hsome.trans (congrArg some (hlast _ (List.getLast?_cons_cons.trans hsome)))

/-- **Escaping is stable.** Where a cell has no bar, escaping it again changes nothing: its pieces
stay as they are, with bare brackets escaped. Every cell is read in one way only, and after one pass
no bracket of it is bare and every bar stands behind a backslash. -/
theorem escapeCell_stable (cell : Text) :
    ('|' ∉ cell → escapeCell (escapeCell cell) = escapeCell cell ∧
      ∀ ps, Reads cell ps → Reads (escapeCell cell) (ps.map Piece.escape)) ∧
    (∃! ps, Reads (escapeCell cell) ps) ∧
    (∀ ps, Reads (escapeCell cell) ps → ∀ p ∈ ps, ¬p.IsBare) ∧
    ∀ before after, escapeCell cell = before ++ '|' :: after →
      before.getLast? = some '\\' := by
  refine ⟨fun hcell ↦ ?_, ?_, fun ps hps ↦ not_isBare_of_reads hps, fun before after hbar ↦ ?_⟩
  · have hagain : '|' ∉ escapeBrackets 0 cell := mt (mem_escapeBrackets_iff (by decide)).mp hcell
    rw [escapeCell_of_notMem hcell, escapeCell_of_notMem hagain]
    exact ⟨escapeBrackets_escapeBrackets cell, fun ps hps ↦ hps.escape⟩
  · obtain ⟨ps, hps⟩ := exists_reads (escapeCell cell)
    exact ⟨ps, hps, fun qs hqs ↦ hqs.unique hps⟩
  · have hguarded : IsGuarded (' ' :: escapeCell cell) :=
      isGuarded_escapeBrackets (isGuarded_replace ' ' cell)
    rw [hbar] at hguarded
    exact hguarded.getLast?_eq (by decide)

theorem escapeCell_stable_mixture :
    '|' ∉ ("\x60<b\x60 <c> <Badge x> /> \x60 \\<" : Text) ∧
      escapeCell "\x60<b\x60 <c> <Badge x> /> \x60 \\<" =
        "\x60<b\x60 \\<c\\> <Badge x> /> \x60 \\<" ∧
      escapeCell "\x60<b\x60 \\<c\\> <Badge x> /> \x60 \\<" =
        "\x60<b\x60 \\<c\\> <Badge x> /> \x60 \\<" := by
  have hcell : '|' ∉ ("\x60<b\x60 <c> <Badge x> /> \x60 \\<" : Text) := by decide
  have honce : escapeCell "\x60<b\x60 <c> <Badge x> /> \x60 \\<" =
      "\x60<b\x60 \\<c\\> <Badge x> /> \x60 \\<" := by decide
  have htwice := ((escapeCell_stable "\x60<b\x60 <c> <Badge x> /> \x60 \\<").1 hcell).1
  rw [honce] at htwice
  exact ⟨hcell, honce, htwice⟩

end ApiSite.Table
