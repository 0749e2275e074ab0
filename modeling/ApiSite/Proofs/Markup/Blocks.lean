import ApiSite.Markup.Document
import ApiSite.Proofs.Markup.Running
import Mathlib.Data.List.TakeWhile

/-!
# Paragraphs of running text

Whatever is not a paragraph begins with, or holds, a character that running text does not have: each
rule that reads a source or a block is refused by the lack of such a character. So a source of
running texts with blank lines between them is read as its paragraphs and as nothing else
(`parse_paragraphs`). A source may also hold tags: raw markup takes nothing from it if every tag is
one that is left where it stands (`extract_of_isLeft`).
-/

set_option autoImplicit false

namespace ApiSite.Markup

open Text (lines unlines startsWith)

variable {as : List Atom} {ps : List (List Atom)} {t line : Text} {ls : List Text} {x : Char}

/-- Paragraphs as they stand in a source, with a blank line behind each. -/
def paragraphsText (ps : List (List Atom)) : Text :=
  ps.flatMap fun p ↦ sourceOf p ++ ['\n', '\n']

theorem join_append_blankLine (hps : ps ≠ []) :
    Text.join ['\n', '\n'] (ps.map sourceOf) ++ ['\n', '\n'] = paragraphsText ps := by
  rw [Text.join_append_sep (mt List.map_eq_nil_iff.mp hps), paragraphsText, List.flatMap_map]

theorem isPlain_paragraphsText (hps : ∀ p ∈ ps, IsRunning p) (hx : x ∈ paragraphsText ps) :
    isPlain x = true := by
  obtain ⟨p, hp, hx⟩ := List.mem_flatMap.mp hx
  rcases List.mem_append.mp hx with hx | hx
  · exact (hps p hp).isPlain hx
  · simp only [List.mem_cons, List.not_mem_nil, or_false, or_self] at hx
    rw [hx]
    rfl

/-- Where no paragraph begins with a blank or has two in a row, no line of a source begins with a
space, the first one aside. -/
theorem isChain_flatMap_blankLine {ts : List Text} (hblanks : ∀ t ∈ ts, NoTwoBlanks t)
    (hhead : ∀ t ∈ ts, ∃ c s, t = c :: s ∧ Text.isBlank c = false) :
    (ts.flatMap (· ++ ['\n', '\n'])).IsChain fun a b ↦ ¬(a = '\n' ∧ b = ' ') := by
  induction ts with
  | nil => exact List.IsChain.nil
  | cons t ts ih =>
    rw [List.forall_mem_cons] at hblanks hhead
    have hrest := ih hblanks.2 hhead.2
    have hline : t.IsChain fun a b ↦ ¬(a = '\n' ∧ b = ' ') :=
      hblanks.1.imp fun a b hab hboth ↦ hab (by rw [hboth.1, hboth.2]; exact ⟨rfl, rfl⟩)
    have hend : ['\n', '\n'].IsChain fun a b ↦ ¬(a = '\n' ∧ b = ' ') := by simp
    rw [List.flatMap_cons]
    refine (hline.append hend fun a _ b hb ↦ ?_).append hrest fun a _ b hb hboth ↦ ?_
    · obtain rfl : '\n' = b := by simpa using hb
      simp
    · cases ts with
      | nil => cases hb
      | cons u ts =>
        obtain ⟨c, s, rfl, hblank⟩ := hhead.2 u List.mem_cons_self
        obtain rfl : c = b := by simpa using hb
        rw [hboth.2] at hblank
        cases hblank

/-- No line of the source begins with a space, the first one aside. -/
theorem paragraphsText_isChain (hps : ∀ p ∈ ps, IsRunning p) :
    (paragraphsText ps).IsChain fun a b ↦ ¬(a = '\n' ∧ b = ' ') := by
  have hchain := @isChain_flatMap_blankLine (ps.map sourceOf)
    (List.forall_mem_map.mpr fun p hp ↦ (hps p hp).noTwoBlanks)
    (List.forall_mem_map.mpr fun p hp ↦ (hps p hp).exists_head)
  rwa [List.flatMap_map] at hchain

/-! ### A source before its blocks are read -/

theorem expandTabs_eq_self {width column : Nat} (ht : '\t' ∉ t) :
    Source.expandTabs width column t = t := by
  induction t generalizing column with
  | nil => rfl
  | cons c t ih =>
    have hc : c ≠ '\t' := fun heq ↦ ht (heq ▸ List.mem_cons_self)
    have hrest (column : Nat) : Source.expandTabs width column t = t :=
      ih (mt (List.mem_cons_of_mem _) ht)
    rw [Source.expandTabs, if_neg hc]
    split
    · rw [hrest]
    · rw [hrest]

theorem emptyBlankLines_eq_self (hls : ∀ line ∈ ls, line.all (· == ' ') = true → line = []) :
    Source.emptyBlankLines ls = ls := by
  fun_induction Source.emptyBlankLines ls with
  | case1 => rfl
  | case2 line => rfl
  | case3 line rest hrest ih =>
    rw [ih fun later hlater ↦ hls later (List.mem_cons_of_mem _ hlater)]
    split
    · next hall => rw [hls line List.mem_cons_self hall]
    · rfl

theorem lines_append_blankLine : lines (t ++ ['\n', '\n']) = lines t ++ [[], []] :=
  Text.splitOn_append_cons '\n' t ['\n']

/-- A source that needs nothing to become uniform: no characters of marks, one kind of line end, no
tabs, and no spaces alone on a line after the first. -/
structure IsUniform (t : Text) : Prop where
  opening : Mark.opening ∉ t
  closing : Mark.closing ∉ t
  carriageReturn : '\r' ∉ t
  tab : '\t' ∉ t
  line : ∀ line ∈ (lines t).tail, line.all (· == ' ') = true → line = []

/-- A uniform source is divided into its lines as it stands. -/
theorem IsUniform.uniformLines_eq (h : IsUniform t) :
    Source.uniformLines t = lines t ++ [[], []] := by
  have hmarks : t.filter (fun c ↦ c != Mark.opening && c != Mark.closing) = t := by
    rw [List.filter_eq_self]
    intro x hx
    simp [ne_of_mem_of_not_mem hx h.opening, ne_of_mem_of_not_mem hx h.closing]
  have htab : '\t' ∉ t ++ ['\n', '\n'] := by simpa using h.tab
  obtain ⟨first, rest, hsplit⟩ := List.exists_cons_of_ne_nil (Text.splitOn_ne_nil '\n' t)
  have hblank : Source.emptyBlankLines (rest ++ [[], []]) = rest ++ [[], []] := by
    refine emptyBlankLines_eq_self fun line hline hall ↦ ?_
    rcases List.mem_append.mp hline with hline | hline
    · exact h.line line (by rwa [lines, hsplit]) hall
    · simpa using hline
  simp only [Source.uniformLines, hmarks, Text.unifyLineEnds_eq_self h.carriageReturn,
    expandTabs_eq_self htab, lines_append_blankLine, hsplit, List.cons_append, hblank]

/-- A source without indents is uniform if it has none of the characters that are changed. -/
theorem isUniform_of_isChain (hopening : Mark.opening ∉ t) (hclosing : Mark.closing ∉ t)
    (hreturn : '\r' ∉ t) (htab : '\t' ∉ t)
    (hindent : t.IsChain fun a b ↦ ¬(a = '\n' ∧ b = ' ')) : IsUniform t where
  opening := hopening
  closing := hclosing
  carriageReturn := hreturn
  tab := htab
  line line hline hall := by
    have hhead := Text.head?_ne_of_mem_tail_lines hindent hline
    cases line with
    | nil => rfl
    | cons c line => exact absurd (by simpa using (List.all_eq_true.mp hall) c) hhead

/-- A source of plain characters without indents is uniform. -/
theorem isUniform_of_isPlain (hplain : ∀ x ∈ t, isPlain x = true)
    (hindent : t.IsChain fun a b ↦ ¬(a = '\n' ∧ b = ' ')) : IsUniform t :=
  isUniform_of_isChain (Text.not_mem_of_all hplain rfl) (Text.not_mem_of_all hplain rfl)
    (Text.not_mem_of_all hplain rfl) (Text.not_mem_of_all hplain rfl) hindent

theorem opener?_eq_none (htick : '\x60' ∉ line) (htilde : '~' ∉ line) :
    Fence.opener? line = none := by
  rw [Fence.opener?]
  simp only
  split
  · next c rest hdrop =>
    have hc : c ∈ line := List.mem_of_mem_drop (by rw [hdrop]; exact List.mem_cons_self)
    rw [if_neg]
    rintro (rfl | rfl)
    · exact htick hc
    · exact htilde hc
  · rfl

/-- Lines that open no fence have none. -/
theorem extract_fences_eq_nil (hls : ∀ line ∈ ls, Fence.opener? line = none) :
    Fence.extract ls = (ls, []) := by
  rw [Fence.extract]
  induction ls with
  | nil => rfl
  | cons line ls ih =>
    have hstart : Fence.start? line ls = none := by
      rw [Fence.start?, hls line List.mem_cons_self]
    rw [Fence.extractFrom, hstart]
    simp only [ih fun l hl ↦ hls l (List.mem_cons_of_mem _ hl)]

namespace RawHtml

variable {r : Reader} {u : Text} {strict : Bool} {fuel : Nat}

/-- A reader that has met nothing but text. -/
structure Reader.IsQuiet (r : Reader) : Prop where
  inRaw : r.inRaw = false
  inTail : r.inTail = false
  plainUntil : r.plainUntil = none
  held : r.held = []
  blocks : r.blocks = []

/-- The part of the source that is left so far. -/
def Reader.source (r : Reader) : Text := r.done.reverse.flatten

theorem Reader.source_leave : (r.leave t).source = r.source ++ t := by
  simp [Reader.source, Reader.leave]

theorem Reader.IsQuiet.leave (h : r.IsQuiet) : (r.leave t).IsQuiet := ⟨h.1, h.2, h.3, h.4, h.5⟩

theorem Reader.IsQuiet.plain_eq (h : r.IsQuiet) : r.plain t = r.leave t := by
  rw [Reader.plain, h.inTail, Bool.false_and, if_neg Bool.false_ne_true, h.inRaw,
    if_neg Bool.false_ne_true]

/-- Moving the position changes nothing else. -/
theorem Reader.IsQuiet.advance (h : r.IsQuiet) :
    (r.advance t).IsQuiet ∧ (r.advance t).source = r.source := by
  rw [Reader.advance]
  induction t generalizing r with
  | nil => exact ⟨h, rfl⟩
  | cons c t ih =>
    rw [List.foldl_cons]
    split
    · exact ih ⟨h.1, h.2, h.3, h.4, h.5⟩
    · exact ih ⟨h.1, h.2, h.3, h.4, h.5⟩

/-- A tag that is left where it stands. -/
structure IsLeft (u : Text) : Prop where
  notEmpty : u ≠ []
  readBracket : ∀ (r : Reader) (rest : Text), r.IsQuiet →
    readBracket r (u ++ rest) = (r.leave u, u.length)

/-- Every angle bracket that opens something opens a tag that is left. -/
def HasOnlyLeft (t : Text) : Prop :=
  ∀ s, '<' :: s <:+ t → ∃ u rest, '<' :: s = u ++ rest ∧ IsLeft u

theorem HasOnlyLeft.suffix (ht : HasOnlyLeft t) {s : Text} (hs : s <:+ t) : HasOnlyLeft s :=
  fun v hv ↦ ht v (hv.trans hs)

theorem HasOnlyLeft.append (ht : HasOnlyLeft t) (hu : '<' ∉ u) : HasOnlyLeft (u ++ t) := by
  induction u with
  | nil => exact ht
  | cons c u ih =>
    intro s hs
    rcases List.suffix_cons_iff.mp hs with heq | hs
    · obtain ⟨rfl, -⟩ := List.cons.inj heq
      exact absurd List.mem_cons_self hu
    · exact ih (mt (List.mem_cons_of_mem _) hu) s hs

theorem HasOnlyLeft.tag (ht : HasOnlyLeft t) (htag : IsLeft ('<' :: u)) (hu : '<' ∉ u) :
    HasOnlyLeft ('<' :: u ++ t) := by
  intro s hs
  rcases List.suffix_cons_iff.mp hs with heq | hs
  · exact ⟨'<' :: u, t, heq, htag⟩
  · exact ht.append hu s hs

theorem hasOnlyLeft_of_not_mem (ht : '<' ∉ t) : HasOnlyLeft t :=
  fun _ hs ↦ absurd (hs.subset List.mem_cons_self) ht

theorem readAll_of_isLeft (hr : r.IsQuiet) (hfuel : t.length ≤ fuel) (hamp : '&' ∉ t)
    (htags : HasOnlyLeft t) :
    (readAll fuel strict r t).IsQuiet ∧ (readAll fuel strict r t).source = r.source ++ t := by
  induction fuel generalizing r t with
  | zero =>
    obtain rfl : t = [] := List.length_eq_zero_iff.mp (Nat.le_zero.mp hfuel)
    exact ⟨hr, (List.append_nil _).symm⟩
  | succ fuel ih =>
    cases t with
    | nil => exact ⟨hr, (List.append_nil _).symm⟩
    | cons c t =>
      -- whatever comes first, a tag or text, is left, and the rest is read in the same way
      have hstep {u rest : Text} (ht : c :: t = u ++ rest) (hu : u ≠ []) :
          (readAll fuel strict ((r.leave u).advance u) rest).IsQuiet ∧
            (readAll fuel strict ((r.leave u).advance u) rest).source =
              r.source ++ (u ++ rest) := by
        obtain ⟨hquiet, hsource⟩ := hr.leave.advance (t := u)
        have hsize : 0 < u.length := List.length_pos_of_ne_nil hu
        have hlength := congrArg List.length ht
        rw [List.length_append] at hlength
        rw [ht] at hamp htags
        have hrest := ih hquiet (by omega) (fun hmem ↦ hamp (List.mem_append_right _ hmem))
          (htags.suffix (List.suffix_append u rest))
        rwa [hsource, Reader.source_leave, List.append_assoc] at hrest
      rw [readAll, hr.plainUntil]
      simp only
      by_cases hc : c = '<'
      · obtain ⟨u, rest, ht, hleft⟩ := htags t (hc ▸ List.suffix_rfl)
        rw [← hc] at ht
        rw [if_pos hc, ht, hleft.readBracket r rest hr]
        simp only [List.take_left, List.drop_left]
        exact hstep ht hleft.notEmpty
      · have hc' : c ≠ '&' := fun heq ↦ hamp (heq ▸ List.mem_cons_self)
        have hdata : (c :: t).takeWhile (fun d ↦ d != '<' && d != '&') ≠ [] := by simp [hc, hc']
        have hwhole := List.prefix_iff_eq_append.mp
          (List.takeWhile_prefix (l := c :: t) fun d ↦ d != '<' && d != '&')
        rw [if_neg hc, if_neg hc', hr.plain_eq]
        have hrest := hstep hwhole.symm hdata
        rwa [hwhole] at hrest

/-- **A source keeps its tags where all of them are left.** -/
theorem extract_of_isLeft (hamp : '&' ∉ t) (htags : HasOnlyLeft t) : extract t = (t, []) := by
  obtain ⟨hquiet, hsource⟩ := @readAll_of_isLeft t {} false (t.length + 1) ⟨rfl, rfl, rfl, rfl, rfl⟩
    (Nat.le_succ _) hamp htags
  rw [Reader.source] at hsource
  simp only [extract, hquiet.held, List.isEmpty_nil, if_true, hsource, hquiet.blocks]
  rfl

end RawHtml

theorem extract_rawHtml_eq_nil (hbracket : '<' ∉ t) (hamp : '&' ∉ t) :
    RawHtml.extract t = (t, []) :=
  RawHtml.extract_of_isLeft hamp (RawHtml.hasOnlyLeft_of_not_mem hbracket)

/-! ### Rules that refuse a block -/

theorem TableRow.scanFrom_cons {pos : Nat} {c : Char} (hslash : c ≠ '\\') (htick : c ≠ '\x60') :
    TableRow.scanFrom pos 0 (c :: t) =
      let rest := TableRow.scanFrom (pos + 1) 0 t
      if c = '|' then { rest with pipes := pos :: rest.pipes } else rest := by
  rw [TableRow.scanFrom.eq_def]
  simp only [if_neg hslash, if_neg htick]

namespace Block

variable {block : Text}

theorem not_mem_lines (hx : x ∉ block) (hline : line ∈ lines block) : x ∉ line :=
  fun hmem ↦ hx (Text.mem_of_mem_splitOn hline hmem)

theorem scanFrom_pipes_eq_nil {pos skip : Nat} (hpipe : '|' ∉ line) :
    (TableRow.scanFrom pos skip line).pipes = [] := by
  induction line generalizing pos skip with
  | nil => cases skip <;> rfl
  | cons c line ih =>
    have hrest (pos skip : Nat) : (TableRow.scanFrom pos skip line).pipes = [] :=
      ih (mt (List.mem_cons_of_mem _) hpipe)
    have hc : c ≠ '|' := fun heq ↦ hpipe (heq ▸ List.mem_cons_self)
    cases skip with
    | succ skip => exact hrest _ _
    | zero =>
      rw [TableRow.scanFrom.eq_def]
      simp only [if_neg hc]
      repeat' split
      all_goals exact hrest _ _

/-- Lines are no table if the first one has neither a border nor a bar that divides cells. -/
theorem layout?_eq_none_of_header
    (h : ∀ line ∈ ls.head?, TableRow.hasLeftBorder (Text.trim (· == ' ') line) = false ∧
      TableRow.hasRightBorder (Text.trim (· == ' ') line) = false ∧
        (TableRow.scanFrom 0 0 (Text.trim (· == ' ') line)).pipes = []) :
    TableRow.layout? ls = none := by
  rw [TableRow.layout?]
  split
  · next header separator body hmap =>
    obtain ⟨line, rest, rfl⟩ : ∃ line rest, ls = line :: rest :=
      List.exists_cons_of_ne_nil fun hnil ↦ by simp [hnil] at hmap
    obtain ⟨rfl, -⟩ := List.cons.inj hmap
    obtain ⟨hleft, hright, hpipes⟩ := h line rfl
    have hsplit : (TableRow.split false (Text.trim (· == ' ') line)).length = 1 := by
      simp [TableRow.split, TableRow.cells, hpipes, TableRow.cutAt]
    simp [hleft, hright, hsplit]
  · rfl

theorem layout?_eq_none (hpipe : '|' ∉ block) : TableRow.layout? (lines block) = none := by
  refine layout?_eq_none_of_header fun line hline ↦ ?_
  have hheader : '|' ∉ Text.trim (· == ' ') line := fun hx ↦
    not_mem_lines hpipe (List.mem_of_mem_head? hline) (Text.mem_of_mem_trim hx)
  refine ⟨Text.startsWith_eq_false List.mem_cons_self hheader, ?_, scanFrom_pipes_eq_nil hheader⟩
  rw [TableRow.hasRightBorder]
  split
  · next t hrev => exact absurd (List.mem_reverse.mp (hrev ▸ List.mem_cons_self)) hheader
  · rfl

/-- Something holds of a text from its beginning on, and from behind each of its line feeds. -/
structure AtLineStarts (p : Text → Prop) (t : Text) : Prop where
  here : p t
  later : ∀ s, '\n' :: s <:+ t → p s

theorem atLineStarts_of_not_mem {p : Text → Prop} (hp : ∀ s, x ∉ s → p s) (hx : x ∉ t) :
    AtLineStarts p t :=
  ⟨hp t hx, fun s hs ↦ hp s fun hmem ↦ hx (hs.subset (List.mem_cons_of_mem _ hmem))⟩

theorem headingAt?_eq_none (hmark : '#' ∉ t) : headingAt? t = none := by
  have hcount : Text.countStart (· == '#') t = 0 := by
    cases t with
    | nil => rfl
    | cons c t =>
      have hc : c ≠ '#' := fun heq ↦ hmark (heq ▸ List.mem_cons_self)
      simp [Text.countStart, hc]
  simp [headingAt?, hcount]

/-- A heading stands at the start of a line. -/
theorem heading?_eq_none_of_starts (h : AtLineStarts (headingAt? · = none) block) :
    heading? block = none := by
  have hafter : headingAfterLine? block = none := by
    have hlater := h.later
    clear h
    induction block with
    | nil => rfl
    | cons c block ih =>
      have hhere : (if c = '\n' then headingAt? block else none) = none := by
        split
        · next hc => exact hlater block (hc ▸ List.suffix_rfl)
        · rfl
      rw [headingAfterLine?, hhere, ih fun s hs ↦ hlater s (hs.trans (List.suffix_cons _ _))]
      rfl
  rw [heading?, h.here, hafter]

theorem heading?_eq_none (hmark : '#' ∉ block) : heading? block = none :=
  heading?_eq_none_of_starts (atLineStarts_of_not_mem (fun _ ↦ headingAt?_eq_none) hmark)

theorem underlined?_eq_none (hdouble : '=' ∉ block) (hsingle : '-' ∉ block) :
    underlined? block = none := by
  rw [underlined?]
  split
  · next title line rest hlines =>
    have hline : line ∈ lines block := by rw [hlines]; simp
    have hno {c : Char} (hc : c ∉ block) : startsWith [c] line = false :=
      Text.startsWith_eq_false List.mem_cons_self (not_mem_lines hc hline)
    simp [hno hdouble, hno hsingle]
  · rfl

theorem rule?_eq_none_of_lines (hls : ∀ line ∈ ls, isRule line = false) : rule? ls = none := by
  induction ls with
  | nil => rfl
  | cons line ls ih =>
    rw [rule?, hls line List.mem_cons_self, if_neg Bool.false_ne_true,
      ih fun l hl ↦ hls l (List.mem_cons_of_mem _ hl)]
    rfl

theorem rule?_eq_none (hdash : '-' ∉ block) (hunder : '_' ∉ block) (hstar : '*' ∉ block) :
    rule? (lines block) = none := by
  refine rule?_eq_none_of_lines fun line hmem ↦ ?_
  rw [isRule]
  split
  · next c rest hdrop =>
    have hc : c ∈ line := List.mem_of_mem_drop (by rw [hdrop]; exact List.mem_cons_self)
    have hne {d : Char} (hd : d ∉ block) : c ≠ d :=
      fun heq ↦ not_mem_lines hd hmem (heq ▸ hc)
    simp [hne hdash, hne hunder, hne hstar]
  · rfl

theorem isDecimal_eq_false (hx : isPlain x = true) : Text.isDecimal x = false := by
  simp only [isPlain, Bool.or_eq_true, beq_iff_eq] at hx
  rcases hx with (((hx | rfl) | rfl) | rfl) | rfl
  · have hrange := toNat_of_isAlpha hx
    have hdigit : x.isDigit = false := by
      simp only [Char.isDigit, Bool.and_eq_false_iff, decide_eq_false_iff_not, ge_iff_le,
        UInt32.le_iff_toNat_le]
      right
      change ¬x.toNat ≤ 57
      omega
    rw [Text.isDecimal, hdigit]
    split
    · rfl
    · omega
  all_goals rfl

/-- A text of plain characters that begins with none of the bullets begins no list. -/
theorem startsList_eq_false {kind : Marker} (hplain : ∀ x ∈ block, isPlain x = true) :
    startsList kind block = false := by
  have hmarker {t : Text} (ht : ∀ x ∈ t, isPlain x = true) : marker? t = none := by
    cases t with
    | nil => rfl
    | cons c t =>
      have hc := ht c List.mem_cons_self
      have hbullet : ¬(c = '*' ∨ c = '+' ∨ c = '-') := by
        rintro (rfl | rfl | rfl) <;> exact absurd hc Bool.false_ne_true
      simp [marker?, hbullet, isDecimal_eq_false hc]
  have hindented : indentedMarker? 0 3 block = none := by
    rw [indentedMarker?]
    split
    · exact hmarker fun x hx ↦ hplain x (List.mem_of_mem_drop hx)
    · rfl
  rw [startsList, hindented]

theorem afterQuoteMark?_eq_none (hmark : '>' ∉ line) : afterQuoteMark? line = none := by
  rw [afterQuoteMark?]
  split
  · split
    · next rest hdrop =>
      exact absurd (List.mem_of_mem_drop (hdrop ▸ List.mem_cons_self)) hmark
    · next rest _ hdrop =>
      exact absurd (List.mem_of_mem_drop (hdrop ▸ List.mem_cons_self)) hmark
    · rfl
  · rfl

theorem alertKind?_eq_none (hmark : '>' ∉ line) : alertKind? line = none := by
  rw [alertKind?, afterQuoteMark?_eq_none hmark]
  rfl

/-- A quotation stands at the start of a line. -/
theorem quotation?_eq_none_of_starts (h : AtLineStarts (afterQuoteMark? · = none) block) :
    quotation? block = none := by
  have hafter : quotation?.afterLine block = none := by
    have hlater := h.later
    clear h
    induction block with
    | nil => rfl
    | cons c block ih =>
      have hhere : ¬(c = '\n' ∧ (afterQuoteMark? block).isSome = true) := by
        rintro ⟨rfl, hmark⟩
        rw [hlater block List.suffix_rfl] at hmark
        cases hmark
      rw [quotation?.afterLine, if_neg hhere,
        ih fun s hs ↦ hlater s (hs.trans (List.suffix_cons _ _))]
      rfl
  rw [quotation?, h.here, hafter]
  rfl

theorem quotation?_eq_none (hmark : '>' ∉ block) : quotation? block = none :=
  quotation?_eq_none_of_starts (atLineStarts_of_not_mem (fun _ ↦ afterQuoteMark?_eq_none) hmark)

theorem definitionAt?_eq_none (hcolon : ':' ∉ t) : definitionAt? t = none := by
  rw [definitionAt?]
  simp only
  split
  · next rest hdrop =>
    split
    · rfl
    · split
      · next after hlabel =>
        have hmem : ':' ∈ rest :=
          List.mem_of_mem_drop (by rw [hlabel]; exact List.mem_cons_of_mem _ List.mem_cons_self)
        have hmem : ':' ∈ t :=
          List.mem_of_mem_drop (by rw [hdrop]; exact List.mem_cons_of_mem _ hmem)
        exact absurd hmem hcolon
      · rfl
  · rfl

theorem definition?_eq_none {lineStart : Bool} (hcolon : ':' ∉ block) :
    definition? lineStart block = none := by
  induction block generalizing lineStart with
  | nil => cases lineStart <;> rfl
  | cons c block ih =>
    rw [definition?, definitionAt?_eq_none hcolon, ite_self]
    simp only
    rw [ih (mt (List.mem_cons_of_mem _) hcolon)]
    rfl

theorem startsWith_eq_false_of_exists_head {start : Text} {c : Char}
    (hblock : ∃ d t, block = d :: t ∧ Text.isBlank d = false) (hc : Text.isBlank c = true) :
    startsWith (c :: start) block = false := by
  obtain ⟨d, t, rfl, hd⟩ := hblock
  have hne : c ≠ d := fun heq ↦ by rw [heq, hd] at hc; cases hc
  simp [startsWith, List.isPrefixOf_cons_cons, hne]

/-- A running text is a paragraph, wherever it stands. -/
theorem formOf_sourceOf (h : IsRunning as) {place : Place} {parent : Element} :
    formOf [] place parent (sourceOf as) = .paragraph := by
  have hempty : (sourceOf as).isEmpty = false := by
    obtain ⟨c, t, hsource, -⟩ := h.exists_head
    rw [hsource, List.isEmpty_cons]
  have hfirst : '>' ∉ (sourceOf as).takeWhile (· != '\n') :=
    fun hmem ↦ h.not_mem rfl (List.takeWhile_subset _ hmem)
  have hblank {start : Text} {c : Char} (hc : Text.isBlank c = true) :
      startsWith (c :: start) (sourceOf as) = false :=
    startsWith_eq_false_of_exists_head h.exists_head hc
  have hnest : startsWith (Text.spaces nestWidth) (sourceOf as) = false := hblank rfl
  have hcode : startsWith (Text.spaces codeWidth) (sourceOf as) = false := hblank rfl
  have hline : startsWith ['\n'] (sourceOf as) = false := hblank rfl
  simp [formOf, hempty, isNested, hnest, hcode, hline, layout?_eq_none (h.not_mem rfl),
    heading?_eq_none (h.not_mem rfl),
    underlined?_eq_none (h.not_mem rfl) (h.not_mem rfl),
    rule?_eq_none (h.not_mem rfl) (h.not_mem rfl) (h.not_mem rfl),
    startsList_eq_false fun x hx ↦ h.isPlain hx, alertKind?_eq_none hfirst,
    quotation?_eq_none (h.not_mem rfl), definition?_eq_none (h.not_mem rfl)]

/-- A text on one line is a paragraph if it begins with none of the characters that other blocks
begin with. -/
theorem formOf_line {c : Char} (hhead : c ∉ [' ', '#', '-', '_', '*', '+', '>'])
    (hdigit : Text.isDecimal c = false) (hfeed : '\n' ∉ c :: t) (hbar : '|' ∉ c :: t)
    (hcolon : ':' ∉ c :: t) {place : Place} {parent : Element} :
    formOf [] place parent (c :: t) = .paragraph := by
  simp only [List.mem_cons, List.not_mem_nil, or_false, not_or] at hhead
  obtain ⟨hspace, hmark, hdash, hunder, hstar, hplus, hquote⟩ := hhead
  have hlines : lines (c :: t) = [c :: t] := Text.splitOn_eq_singleton hfeed
  have hstarts {p : Text → Prop} (hp : p (c :: t)) : AtLineStarts p (c :: t) :=
    ⟨hp, fun s hs ↦ absurd (hs.subset List.mem_cons_self) hfeed⟩
  have hindent : indentOf (c :: t) = 0 := by simp [indentOf, Text.countStart, isSpace, hspace]
  have hheading : headingAt? (c :: t) = none := by simp [headingAt?, Text.countStart, hmark]
  have hunderlined : underlined? (c :: t) = none := by rw [underlined?, hlines]
  have hrule : rule? (lines (c :: t)) = none :=
    rule?_eq_none_of_lines (by simp [hlines, isRule, hindent, hdash, hunder, hstar])
  have hlist (kind : Marker) : startsList kind (c :: t) = false := by
    have hmarker : marker? (c :: t) = none := by simp [marker?, hstar, hplus, hdash, hdigit]
    simp [startsList, indentedMarker?, hindent, hmarker]
  have hafter : afterQuoteMark? (c :: t) = none := by
    rw [afterQuoteMark?, hindent, if_pos (Nat.zero_le 3), List.drop_zero]
    split
    · next heq => exact absurd (List.cons.inj heq).1 hquote
    · next heq => exact absurd (List.cons.inj heq).1 hquote
    · rfl
  have halert : alertKind? ((c :: t).takeWhile (· != '\n')) = none := by
    rw [Text.takeWhile_ne_eq_self hfeed, alertKind?, hafter]
    rfl
  have hspaces (n : Nat) : startsWith (Text.spaces (n + 1)) (c :: t) = false := by
    simp [startsWith, Text.spaces, List.replicate_succ, List.isPrefixOf_cons_cons, Ne.symm hspace]
  have hnest : startsWith (Text.spaces nestWidth) (c :: t) = false := hspaces _
  have hcode : startsWith (Text.spaces codeWidth) (c :: t) = false := hspaces _
  have hline : startsWith ['\n'] (c :: t) = false := by
    have hc : '\n' ≠ c := fun heq ↦ hfeed (heq ▸ List.mem_cons_self)
    simp [startsWith, List.isPrefixOf_cons_cons, hc]
  simp [formOf, isNested, hnest, hcode, hline, layout?_eq_none hbar,
    heading?_eq_none_of_starts (hstarts hheading), hunderlined, hrule, hlist, halert,
    quotation?_eq_none_of_starts (hstarts hafter), definition?_eq_none hcolon]

/-! ### Reading the paragraphs -/

/-- A text that is one paragraph of a document. -/
structure IsParagraph (t : Text) : Prop where
  head : ∃ c s, t = c :: s ∧ Text.isBlank c = false
  last : t.getLast? ≠ some '\n'
  noEmptyLine : t.IsChain fun a b ↦ ¬(a = '\n' ∧ b = '\n')
  form : ∀ parent, formOf [] .flow parent t = .paragraph

theorem addParagraph_of_isParagraph (h : IsParagraph t) (parent : Element) :
    addParagraph .flow t parent = parent.append (.ofText "p" t) := by
  obtain ⟨c, s, rfl, hblank⟩ := h.head
  have hstrip : Text.stripStart (c :: s) = c :: s := by
    rw [Text.stripStart, Text.trimStart_eq_self hblank]
  have hnot : Text.isBlankText (c :: s) = false := by simp [Text.isBlankText, hblank]
  rw [addParagraph, hnot, hstrip]
  rfl

theorem read_nil {fuel : Nat} {place : Place} {parent : Element} :
    read [] fuel place [] parent = (parent, []) := by
  cases fuel <;> rfl

/-- An empty block at the end adds nothing where no code precedes it. -/
theorem read_emptyBlock {fuel : Nat} {place : Place} {parent : Element}
    (hparent : ∀ e ∈ parent.last?, isCodeBlock e = false) :
    read [] (fuel + 1) place [[]] parent = (parent, []) := by
  have hform : formOf [] place parent [] = .empty := by simp [formOf]
  have hkeep : keepEmptyLine "\n\n" parent = parent := by
    rw [keepEmptyLine]
    split
    · next e he => rw [hparent e he, if_neg Bool.false_ne_true]
    · rfl
  rw [read, hform]
  simp only [hkeep, read_nil, List.append_nil]

theorem read_of_isParagraph {ts : List Text} (hts : ∀ t ∈ ts, IsParagraph t) {fuel : Nat}
    (hfuel : ts.length < fuel) {parent : Element}
    (hparent : ∀ e ∈ parent.last?, isCodeBlock e = false) :
    read [] fuel .flow (ts ++ [[]]) parent =
      (parent.setChildren (parent.children ++ ts.map (.ofText "p")), []) := by
  induction ts generalizing fuel parent with
  | nil =>
    obtain ⟨fuel, rfl⟩ : ∃ n, fuel = n + 1 := ⟨fuel - 1, by simp at hfuel; omega⟩
    have hself : parent.setChildren parent.children = parent := by cases parent; rfl
    rw [List.nil_append, read_emptyBlock hparent, List.map_nil, List.append_nil, hself]
  | cons t ts ih =>
    obtain ⟨fuel, rfl⟩ : ∃ n, fuel = n + 1 := ⟨fuel - 1, by simp at hfuel; omega⟩
    have hlast : ∀ e ∈ (parent.append (.ofText "p" t)).last?, isCodeBlock e = false := by
      intro e he
      obtain rfl : Element.ofText "p" t = e := by
        simpa [Element.append, Element.last?, Element.setChildren, Element.children] using he
      rfl
    have hlater := ih (fun u hu ↦ hts u (List.mem_cons_of_mem _ hu))
      (Nat.lt_of_succ_lt_succ hfuel) hlast
    have ht := hts t List.mem_cons_self
    rw [List.cons_append, read, ht.form, addParagraph_of_isParagraph ht]
    simp only [hlater]
    simp [Element.append, Element.setChildren, Element.tag, Element.attrs, Element.text,
      Element.children, Element.tail]

theorem splitOnText_of_isParagraph {ts : List Text} (hts : ∀ t ∈ ts, IsParagraph t) :
    Text.splitOnText ['\n', '\n'] (ts.flatMap (· ++ ['\n', '\n'])) = ts ++ [[]] := by
  induction ts with
  | nil => rfl
  | cons t ts ih =>
    have ht := hts t List.mem_cons_self
    have hrest := ih fun u hu ↦ hts u (List.mem_cons_of_mem _ hu)
    rw [List.flatMap_cons, List.append_assoc, List.cons_append, List.cons_append, List.nil_append,
      Text.splitOnText_append ht.noEmptyLine ht.last, hrest]
    rfl

/-- **A source of paragraphs with a blank line behind each is these paragraphs.** -/
theorem parse_of_isParagraph {ts : List Text} (hts : ∀ t ∈ ts, IsParagraph t) :
    parse [] (ts.flatMap (· ++ ['\n', '\n'])) =
      (.mk "div" [] none (ts.map (.ofText "p")) none, []) := by
  have hfuel : ts.length < 3 * (ts.flatMap (· ++ ['\n', '\n'])).length + 16 := by
    have hlength : ts.length ≤ (ts.flatMap (· ++ ['\n', '\n'])).length := by
      clear hts
      induction ts with
      | nil => exact Nat.le_refl 0
      | cons t ts ih =>
        simp only [List.flatMap_cons, List.length_append, List.length_cons, List.length_nil]
        omega
    omega
  have hsep : ("\n\n" : Text) = ['\n', '\n'] := rfl
  have hroot : ∀ e ∈ (Element.bare "div").last?, isCodeBlock e = false := by
    simp [Element.bare, Element.last?, Element.children]
  rw [parse, hsep, splitOnText_of_isParagraph hts, read_of_isParagraph hts hfuel hroot]
  rfl

/-- A text without blanks at its ends and with single ones inside is a paragraph if it has that
form. -/
theorem isParagraph_of_noTwoBlanks (hhead : ∃ c s, t = c :: s ∧ Text.isBlank c = false)
    (hlast : ∃ s c, t = s ++ [c] ∧ Text.isBlank c = false) (hblanks : NoTwoBlanks t)
    (hform : ∀ parent, formOf [] .flow parent t = .paragraph) : IsParagraph t where
  head := hhead
  last := by
    obtain ⟨s, c, rfl, hblank⟩ := hlast
    rw [List.getLast?_concat]
    rintro ⟨rfl⟩
    cases hblank
  noEmptyLine := hblanks.imp fun a b hab hboth ↦
    hab (by rw [hboth.1, hboth.2]; exact ⟨rfl, rfl⟩)
  form := hform

theorem isParagraph_sourceOf (h : IsRunning as) : IsParagraph (sourceOf as) :=
  isParagraph_of_noTwoBlanks h.exists_head h.exists_last h.noTwoBlanks fun _ ↦ formOf_sourceOf h

/-- **A source of running texts is its paragraphs.** -/
theorem parse_paragraphs (hps : ∀ p ∈ ps, IsRunning p) :
    parse [] (paragraphsText ps) =
      (.mk "div" [] none (ps.map fun p ↦ .ofText "p" (sourceOf p)) none, []) := by
  have hts : ∀ t ∈ ps.map sourceOf, IsParagraph t := by
    intro t ht
    obtain ⟨p, hp, rfl⟩ := List.mem_map.mp ht
    exact isParagraph_sourceOf (hps p hp)
  have hparse := parse_of_isParagraph hts
  rwa [List.flatMap_map, List.map_map] at hparse

end Block

end ApiSite.Markup
