import ApiSite.Proofs.Markup.AngleBrackets

/-!
# What escaping makes of a text

Two laws of the escaped form. Type arguments get a backslash before each of their brackets, however
deep they are nested and whatever stands in them (`escape_typeArguments`). And escaping loses
nothing: with references to brackets decoded and the backslashes before brackets left out, an
escaped text is the text that it comes from (`shown_escape`).

For the first, the bracket at which the type arguments end is the one at which escaping leaves them,
since both count the open brackets (`escapeFrom_of_closes`). For the second, what a text shows is
put together from its end, one character at a time (`shown_cons`), so it is enough that each piece
that escaping writes shows what it replaces, whatever follows.
-/

set_option autoImplicit false

namespace ApiSite.Markup.AngleBrackets

variable {safe : List Text} {mode : Mode} {previous : Option Char} {c : Char} {s t u : Text}
  {depth : Nat}

/-! ### Type arguments -/

/-- Whether a character is an angle bracket. -/
def isAngle (c : Char) : Bool := c == '<' || c == '>'

/-- A text with a backslash before each angle bracket. -/
def slashed (t : Text) : Text := Text.escapeWith (fun c ↦ if isAngle c then ['\\', c] else [c]) t

/-- How many more angle brackets a text opens than it closes. -/
def angleDepth (t : Text) : Int := t.count '<' - t.count '>'

/-- Type arguments: they begin with a bracket and a capital, and the number of open brackets first
returns to zero at their end. -/
structure IsTypeArguments (t : Text) : Prop where
  head : t.head? = some '<'
  capital : (t[1]?.any fun c ↦ 'A' ≤ c && c ≤ 'Z') = true
  closed : angleDepth t = 0
  stays_open : ∀ n < t.length, 0 < n → angleDepth (t.take n) ≠ 0

/-- With some brackets open, their number first returns to zero at the end of a text. -/
structure Closes (depth : Nat) (t : Text) : Prop where
  closed : depth + angleDepth t = 0
  stays_open : ∀ n < t.length, depth + angleDepth (t.take n) ≠ 0

theorem slashed_cons :
    slashed (c :: t) = (if isAngle c then ['\\', c] else [c]) ++ slashed t := List.flatMap_cons

theorem angleDepth_cons : angleDepth (c :: t) =
    (if c = '<' then 1 else if c = '>' then -1 else 0) + angleDepth t := by
  simp only [angleDepth, List.count_cons, beq_iff_eq]
  split_ifs with hopen hclose
  · rw [hopen] at hclose
    cases hclose
  all_goals push_cast; omega

/-- After one more character, with so many brackets open then. -/
theorem Closes.tail (next : Nat) (h : Closes depth (c :: t))
    (hnext : (next : Int) = depth + if c = '<' then 1 else if c = '>' then -1 else 0) :
    Closes next t where
  closed := by
    have hclosed := h.closed
    rw [angleDepth_cons] at hclosed
    omega
  stays_open n hn := by
    have hopen := h.stays_open (n + 1) (Nat.succ_lt_succ hn)
    rw [List.take_succ_cons, angleDepth_cons] at hopen
    omega

/-- Where no bracket is open any more, nothing is left. -/
theorem Closes.eq_nil (h : Closes 0 t) : t = [] := by
  by_contra hne
  exact h.stays_open 0 (List.length_pos_iff.mpr hne) rfl

theorem not_closes_nil : ¬Closes (depth + 1) [] := fun h ↦ by
  have hclosed := h.closed
  simp only [angleDepth, List.count_nil] at hclosed
  omega

/-- After one more character, while a bracket is open. -/
theorem Closes.step (h : Closes (depth + 1) (c :: t)) :
    Closes (if c = '<' then depth + 2 else if c = '>' then depth else depth + 1) t :=
  h.tail _ (by split_ifs <;> push_cast <;> omega)

/-- What closes brackets ends with one. -/
theorem Closes.getLast?_eq (h : Closes depth t) (hne : t ≠ []) : t.getLast? = some '>' := by
  induction t generalizing depth with
  | nil => exact absurd rfl hne
  | cons c t ih =>
    cases depth with
    | zero => exact absurd h.eq_nil hne
    | succ depth =>
      cases t with
      | nil =>
        have hclosed := h.closed
        rw [angleDepth_cons] at hclosed
        by_cases hclose : c = '>'
        · rw [hclose]
          rfl
        · rw [if_neg hclose] at hclosed
          simp only [angleDepth, List.count_nil] at hclosed
          split_ifs at hclosed <;> omega
      | cons d t =>
        rw [List.getLast?_cons_cons]
        exact ih h.step (List.cons_ne_nil d t)

/-- **Escaping leaves type arguments at the bracket that closes them.** -/
theorem escapeFrom_of_closes (hs : Closes depth s) :
    escapeFrom safe (.arguments depth) previous (s ++ t) =
      slashed s ++ escapeFrom safe .plain (lastFrom previous s) t := by
  induction s generalizing depth previous with
  | nil =>
    cases depth with
    | zero => exact escapeFrom_arguments_zero
    | succ depth => exact absurd hs not_closes_nil
  | cons c s ih =>
    cases depth with
    | zero => cases hs.eq_nil
    | succ depth =>
      rw [List.cons_append, escapeFrom, lastFrom, slashed_cons]
      by_cases hopen : c = '<'
      · rw [if_pos hopen, ih (hs.tail (depth + 2) (by rw [if_pos hopen]; omega))]
        simp [isAngle, hopen]
      by_cases hclose : c = '>'
      · rw [if_neg hopen, if_pos hclose,
          ih (hs.tail depth (by rw [if_neg hopen, if_pos hclose]; omega))]
        simp [isAngle, hclose]
      · rw [if_neg hopen, if_neg hclose,
          ih (hs.tail (depth + 1) (by rw [if_neg hopen, if_neg hclose]; omega))]
        simp [isAngle, hopen, hclose]

theorem escapeFrom_of_inert (hs : ∀ c ∈ s, isInert c = true) :
    escapeFrom safe .plain previous s = s :=
  calc escapeFrom safe .plain previous s
      = escapeFrom safe .plain previous (s ++ []) := by rw [List.append_nil]
    _ = s ++ escapeFrom safe .plain (lastFrom previous s) [] := escapeFrom_inert hs
    _ = s := by rw [escapeFrom, List.append_nil]

theorem IsTypeArguments.exists_closes {g : Text} (hg : IsTypeArguments g) :
    ∃ c rest, g = '<' :: c :: rest ∧ ('A' ≤ c && c ≤ 'Z') = true ∧ Closes 1 (c :: rest) := by
  match g, hg with
  | [], hg => cases hg.head
  | [_], hg => cases hg.capital
  | b :: c :: rest, hg =>
    obtain rfl : b = '<' := Option.some.inj hg.head
    refine ⟨c, rest, rfl, hg.capital, ?_, fun n hn ↦ ?_⟩
    · have hclosed := hg.closed
      rw [angleDepth_cons, if_pos rfl] at hclosed
      exact hclosed
    · have hopen := hg.stays_open (n + 1) (Nat.succ_lt_succ hn) (Nat.succ_pos n)
      rw [List.take_succ_cons, angleDepth_cons, if_pos rfl] at hopen
      exact hopen

/-- **Generics are escaped at every level.** Behind a word, type arguments get a backslash before
each of their brackets; nothing else changes, where neither before nor after them a bracket opens or
a backtick stands. -/
theorem escape_typeArguments {p g s : Text} (safeTags : List Text)
    (hp : ∀ c ∈ p, isInert c = true) (hword : (p.getLast?.any Text.isAsciiWord) = true)
    (hg : IsTypeArguments g) (hs : ∀ c ∈ s, isInert c = true) :
    escape safeTags (p ++ g ++ s) = p ++ slashed g ++ s := by
  obtain ⟨c, rest, rfl, hcapital, hcloses⟩ := hg.exists_closes
  obtain rfl | ⟨before, d, rfl⟩ := List.eq_nil_or_concat p
  · cases hword
  rw [List.concat_eq_append] at hp hword ⊢
  have hopens : opensArguments (some d) ((c :: rest) ++ s) = true := by
    rw [List.getLast?_concat] at hword
    simp only [opensArguments, List.cons_append, List.head?_cons, Option.any_some, hcapital,
      Bool.true_and]
    exact hword
  rw [escape, List.append_assoc, escapeFrom_inert hp, lastFrom_concat, List.cons_append,
    escapeFrom_opening hopens, escapeFrom_of_closes hcloses, escapeFrom_of_inert hs]
  simp [slashed, isAngle]

/-- A code span, a safe tag and a comma within type arguments within type arguments. -/
theorem escape_typeArguments_nested :
    let p : Text := "See Map"
    let g : Text := "<K, List<\x60a\x60 <b>, <i></i>>>"
    let s : Text := " > 0"
    ((∀ c ∈ p, isInert c = true) ∧ (p.getLast?.any Text.isAsciiWord) = true ∧
      IsTypeArguments g ∧ ∀ c ∈ s, isInert c = true) ∧
      slashed g = ("\\<K, List\\<\x60a\x60 \\<b\\>, \\<i\\>\\</i\\>\\>\\>" : Text) ∧
      escape ["b"] (p ++ g ++ s) = p ++ slashed g ++ s := by
  intro p g s
  have hp : ∀ c ∈ p, isInert c = true := List.all_eq_true.mp rfl
  have hword : p.getLast?.any Text.isAsciiWord = true := by decide
  have hg : IsTypeArguments g := ⟨by decide, by decide, by decide, by decide⟩
  have hs : ∀ c ∈ s, isInert c = true := List.all_eq_true.mp rfl
  exact ⟨⟨hp, hword, hg, hs⟩, by decide, escape_typeArguments _ hp hword hg hs⟩

/-! ### What a text shows -/

/-- A text with its references to angle brackets decoded. -/
def decoded : Text → Text
  | [] => []
  | '&' :: 'l' :: 't' :: ';' :: t => '<' :: decoded t
  | '&' :: 'g' :: 't' :: ';' :: t => '>' :: decoded t
  | c :: t => c :: decoded t

/-- Whether an angle bracket stands in front, perhaps behind backslashes. -/
def leadsToAngle (t : Text) : Bool := (t.dropWhile (· == '\\')).head?.any isAngle

/-- A text without the backslashes that stand directly before an angle bracket, alone or in a
run. -/
def unslashed : Text → Text
  | [] => []
  | c :: t => if c = '\\' ∧ leadsToAngle t then unslashed t else c :: unslashed t

/-- What a text shows: references to angle brackets are these, and the backslashes before an angle
bracket are left out. -/
def shown (t : Text) : Text := unslashed (decoded t)

/-- What a character and a text that is shown already show together. -/
def precede : Char → Text → Text
  | '&', 'l' :: 't' :: ';' :: t => '<' :: t
  | '&', 'g' :: 't' :: ';' :: t => '>' :: t
  | '\\', t => if t.head?.any isAngle then t else '\\' :: t
  | c, t => c :: t

theorem leadsToAngle_cons :
    leadsToAngle (c :: t) = if c = '\\' then leadsToAngle t else isAngle c := by
  by_cases hslash : c = '\\' <;> simp [leadsToAngle, hslash]

theorem head?_unslashed (t : Text) : (unslashed t).head?.any isAngle = leadsToAngle t := by
  fun_induction unslashed t with
  | case1 => rfl
  | case2 c t hc ih => rw [ih, leadsToAngle_cons, if_pos hc.1]
  | case3 c t hc ih =>
    rw [leadsToAngle_cons]
    split_ifs with hslash
    · have hnot : leadsToAngle t = false := Bool.eq_false_iff.mpr fun hleads ↦ hc ⟨hslash, hleads⟩
      rw [hnot, hslash]
      rfl
    · rfl

theorem decoded_cons (hlt : ∀ r, c :: t ≠ '&' :: 'l' :: 't' :: ';' :: r)
    (hgt : ∀ r, c :: t ≠ '&' :: 'g' :: 't' :: ';' :: r) : decoded (c :: t) = c :: decoded t := by
  rw [decoded.eq_def]
  split <;> simp_all

theorem shown_cons_eq_ite (hlt : ∀ r, c :: t ≠ '&' :: 'l' :: 't' :: ';' :: r)
    (hgt : ∀ r, c :: t ≠ '&' :: 'g' :: 't' :: ';' :: r) :
    shown (c :: t) = if c = '\\' ∧ (shown t).head?.any isAngle then shown t else c :: shown t := by
  rw [shown, decoded_cons hlt hgt, unslashed, ← head?_unslashed]
  rfl

/-- A character that is shown and is neither a bracket nor a backslash stands there. -/
theorem exists_of_shown_eq_cons {x : Char} (hangle : isAngle x = false) (hslash : x ≠ '\\')
    (h : shown t = x :: s) : ∃ r, t = x :: r ∧ shown r = s := by
  have hne {b : Char} (hb : isAngle b = true) : b ≠ x := by
    rintro rfl
    rw [hangle] at hb
    cases hb
  cases t with
  | nil => cases h
  | cons c t =>
    by_cases hlt : ∃ r, c :: t = '&' :: 'l' :: 't' :: ';' :: r
    · obtain ⟨r, hr⟩ := hlt
      rw [hr] at h
      exact absurd (List.cons.inj h).1 (hne rfl)
    by_cases hgt : ∃ r, c :: t = '&' :: 'g' :: 't' :: ';' :: r
    · obtain ⟨r, hr⟩ := hgt
      rw [hr] at h
      exact absurd (List.cons.inj h).1 (hne rfl)
    rw [shown_cons_eq_ite (not_exists.mp hlt) (not_exists.mp hgt)] at h
    split_ifs at h with hc
    · rw [h] at hc
      exact absurd rfl (hne hc.2)
    · obtain ⟨rfl, rfl⟩ := List.cons.inj h
      exact ⟨t, rfl, rfl⟩

/-- So what is shown as the rest of a reference is the rest of one. -/
theorem exists_of_shown_eq_reference {x : Char} (hangle : isAngle x = false) (hslash : x ≠ '\\')
    (h : shown t = x :: 't' :: ';' :: s) : ∃ r, t = x :: 't' :: ';' :: r := by
  obtain ⟨u, rfl, hu⟩ := exists_of_shown_eq_cons hangle hslash h
  obtain ⟨v, rfl, hv⟩ := exists_of_shown_eq_cons rfl (by decide) hu
  obtain ⟨r, rfl, -⟩ := exists_of_shown_eq_cons rfl (by decide) hv
  exact ⟨r, rfl⟩

/-- **What a text shows is put together from its end**, one character at a time. -/
theorem shown_cons : shown (c :: t) = precede c (shown t) := by
  by_cases hlt : ∃ r, c :: t = '&' :: 'l' :: 't' :: ';' :: r
  · obtain ⟨r, hr⟩ := hlt
    obtain ⟨rfl, rfl⟩ := List.cons.inj hr
    rfl
  by_cases hgt : ∃ r, c :: t = '&' :: 'g' :: 't' :: ';' :: r
  · obtain ⟨r, hr⟩ := hgt
    obtain ⟨rfl, rfl⟩ := List.cons.inj hr
    rfl
  rw [shown_cons_eq_ite (not_exists.mp hlt) (not_exists.mp hgt)]
  by_cases hslash : c = '\\'
  · rw [hslash, precede]
    simp
  rw [if_neg fun h ↦ hslash h.1, precede.eq_def]
  split
  · next r hr =>
    obtain ⟨u, rfl⟩ := exists_of_shown_eq_reference rfl (by decide) hr
    exact absurd ⟨u, rfl⟩ hlt
  · next r hr =>
    obtain ⟨u, rfl⟩ := exists_of_shown_eq_reference rfl (by decide) hr
    exact absurd ⟨u, rfl⟩ hgt
  · exact absurd rfl hslash
  · rfl

theorem shown_slash (hc : isAngle c = true) : shown ('\\' :: c :: t) = shown (c :: t) := by
  have hangle : shown (c :: t) = c :: shown t := by
    rw [isAngle, Bool.or_eq_true, beq_iff_eq, beq_iff_eq] at hc
    rcases hc with rfl | rfl <;> rfl
  rw [shown_cons, hangle, precede]
  exact if_pos hc

theorem shown_lt : shown ("&lt;" ++ t) = shown ('<' :: t) := rfl

theorem shown_gt : shown ("&gt;" ++ t) = shown ('>' :: t) := rfl

theorem shown_cons_congr (h : shown s = shown t) : shown (c :: s) = shown (c :: t) := by
  rw [shown_cons, shown_cons, h]

theorem shown_append_congr (h : shown s = shown t) : shown (u ++ s) = shown (u ++ t) := by
  induction u with
  | nil => exact h
  | cons c u ih => exact shown_cons_congr ih

/-- A tag written with references shows the tag, and what is shown behind it. -/
theorem shown_inside {tag : Tag} (htag : tag? ('<' :: t) = some tag)
    (hs : shown s = shown (t.drop (tag.size - 1))) :
    shown ("&lt;" ++ tag.inside ++ "&gt;" ++ s) = shown ('<' :: t) := by
  obtain ⟨⟨rest, rfl⟩, -⟩ := tag?_eq_some_iff.mp htag
  have hrest : (tag.inside ++ '>' :: rest).drop (tag.size - 1) = rest := by
    rw [List.append_cons, size_eq, List.drop_left]
  rw [hrest] at hs
  have hend : shown ("&gt;" ++ s) = shown ('>' :: rest) := shown_gt.trans (shown_cons_congr hs)
  rw [List.append_assoc, List.append_assoc, shown_lt]
  exact shown_cons_congr (shown_append_congr hend)

/-- How many characters a mode passes over without writing anything. -/
def Mode.passed : Mode → Nat
  | .skip n => n
  | _ => 0

theorem Mode.drop_passed (hskip : ∀ n, mode = .skip (n + 1) → False) : t.drop mode.passed = t := by
  cases mode with
  | skip n =>
    cases n with
    | zero => rfl
    | succ n => exact (hskip n rfl).elim
  | _ => rfl

/-- Each piece that escaping writes shows what it replaces. -/
theorem shown_escapeFrom :
    shown (escapeFrom safe mode previous t) = shown (t.drop mode.passed) := by
  fun_induction escapeFrom safe mode previous t with
  | case1 => simp
  | case2 _ _ _ _ ih => exact shown_cons_congr ih
  | case3 _ _ _ _ ih => exact ih
  | case4 _ _ _ ih => exact (shown_slash rfl).trans (shown_cons_congr ih)
  | case5 _ _ _ _ ih => exact (shown_slash rfl).trans (shown_cons_congr ih)
  | case6 _ _ _ _ _ _ ih => exact shown_cons_congr ih
  | case7 mode _ _ _ hskip _ _ _ ih =>
    rw [Mode.drop_passed hskip]
    exact shown_cons_congr ih
  | case8 mode _ _ _ hskip _ _ ih =>
    rw [Mode.drop_passed hskip]
    exact shown_cons_congr ih
  | case9 mode _ _ _ hskip _ _ _ ih =>
    rw [Mode.drop_passed hskip]
    exact (shown_slash rfl).trans (shown_cons_congr ih)
  | case10 mode _ _ _ hskip _ _ _ _ _ _ ih =>
    rw [Mode.drop_passed hskip]
    exact shown_cons_congr ih
  | case11 mode _ _ _ hskip _ _ _ _ _ htag ih =>
    rw [Mode.drop_passed hskip]
    exact shown_inside htag ih
  | case12 mode _ _ _ hskip _ _ _ _ ih =>
    rw [Mode.drop_passed hskip]
    exact shown_cons_congr ih
  | case13 mode _ _ _ _ hskip _ _ _ ih =>
    rw [Mode.drop_passed hskip]
    exact shown_cons_congr ih

/-- **Escaping loses nothing**: an escaped text shows what the text itself shows. -/
theorem shown_escape (safeTags : List Text) (t : Text) : shown (escape safeTags t) = shown t :=
  shown_escapeFrom

end ApiSite.Markup.AngleBrackets
