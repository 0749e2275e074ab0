import ApiSite.Text.Blank
import ApiSite.Text.Sort
import ApiSite.Text.Substitute
import ApiSite.Text.WordChar
import Mathlib.Data.List.Chain
import Mathlib.Data.List.DropRight
import Mathlib.Data.List.TakeWhile

/-!
# Texts without certain characters

A search for a text fails where one of its characters does not occur, and a replacement that needs
such a search leaves the text as it is. These facts say which steps of a pipeline do nothing to a
text, given only which characters are in it.

Texts are also taken apart again at the places where they were put together: at a character
(`splitOn_append`) and at a blank line (`splitOnText_append`). The digits of a number are read as
this number (`decimalNumber?_ofNat`).
-/

set_option autoImplicit false

namespace ApiSite.Text

variable {t old new start sep : Text} {x : Char} {rule : Rule}

/-- A character outside a class is not in a text of that class. -/
theorem not_mem_of_all {p : Char → Bool} (ht : ∀ c ∈ t, p c = true) (hx : p x = false) :
    x ∉ t := by
  intro hmem
  rw [ht x hmem] at hx
  cases hx

/-! ### Searches that fail -/

theorem after?_eq_none (hx : x ∈ start) (ht : x ∉ t) : after? start t = none := by
  cases h : after? start t with
  | none => rfl
  | some rest =>
    rw [eq_append_of_after? h] at ht
    exact absurd (List.mem_append_left _ hx) ht

theorem startsWith_eq_false (hx : x ∈ start) (ht : x ∉ t) : startsWith start t = false := by
  rw [startsWith, Bool.eq_false_iff, ne_eq, List.isPrefixOf_iff_prefix]
  exact fun hbegin ↦ ht (hbegin.subset hx)

/-- A search fails in front of a text that it cannot run into. -/
theorem not_prefix_append {rest : Text} (hx : x ∈ start) (ht : x ∉ t)
    (hrest : ∀ c ∈ rest.head?, c ∉ start) : ¬start <+: t ++ rest := by
  rintro ⟨after, heq⟩
  rcases List.append_eq_append_iff.mp heq with ⟨mid, rfl, -⟩ | ⟨mid, rfl, rfl⟩
  · exact ht (List.mem_append_left _ hx)
  · cases mid with
    | nil => exact ht (by simpa using hx)
    | cons c mid => exact hrest c rfl (List.mem_append_right _ List.mem_cons_self)

theorem after?_eq_none_of_not_prefix (h : ¬start <+: t) : after? start t = none := by
  cases hafter : after? start t with
  | none => rfl
  | some rest => exact absurd (eq_append_of_after? hafter ▸ List.prefix_append start rest) h

theorem cut?_eq_none (hsep : sep ≠ []) (ht : ¬sep <:+: t) : cut? sep t = none := by
  induction t with
  | nil => rw [cut?, List.isEmpty_eq_false_iff.mpr hsep, if_neg Bool.false_ne_true]
  | cons c t ih =>
    have hafter : after? sep (c :: t) = none := by
      cases h : after? sep (c :: t) with
      | none => rfl
      | some rest => exact absurd (eq_append_of_after? h ▸ List.infix_append' [] sep rest) ht
    rw [cut?, hafter]
    simp only
    rw [ih fun h ↦ ht (List.infix_cons h)]
    rfl

/-- A text is cut at the first pair of two characters. -/
theorem cut?_append_pair {a b : Char} {s : Text} (hab : a ≠ b) (hs : ¬[a, b] <:+: s) :
    cut? [a, b] (s ++ a :: b :: t) = some (s, t) := by
  induction s with
  | nil => simp [cut?, after?]
  | cons c s ih =>
    have hafter : after? [a, b] (c :: (s ++ a :: b :: t)) = none := by
      cases s with
      | nil => simp [after?, hab.symm]
      | cons d s =>
        have hpair : a = c → ¬b = d := by
          rintro rfl rfl
          exact hs (List.infix_append' [] [a, b] s)
        simp only [List.cons_append, after?]
        split
        · next hc => rw [if_neg (hpair hc)]
        · rfl
    rw [List.cons_append, cut?, hafter]
    simp only
    rw [ih fun h ↦ hs (List.infix_cons h)]
    rfl

/-- What occurs in a text occurs somewhere first. -/
theorem exists_first_infix (hsep : sep ≠ []) (h : sep <:+: t) :
    ∃ before after, t = before ++ sep ++ after ∧ ¬sep <:+: before := by
  induction t with
  | nil => exact absurd (List.infix_nil.mp h) hsep
  | cons c t ih =>
    by_cases hstart : sep <+: c :: t
    · obtain ⟨after, hafter⟩ := hstart
      exact ⟨[], after, hafter.symm, fun h ↦ hsep (List.infix_nil.mp h)⟩
    · obtain ⟨before, after, rfl, hfirst⟩ := ih ((List.infix_cons_iff.mp h).resolve_left hstart)
      refine ⟨c :: before, after, rfl, fun h ↦ ?_⟩
      rcases List.infix_cons_iff.mp h with h | h
      · rw [List.append_assoc] at hstart
        exact hstart (h.trans (List.prefix_append _ _))
      · exact hfirst h

/-! ### Replacements -/

/-- What a rule takes is passed over. -/
theorem substituteFrom_length {u : Text} :
    substituteFrom rule u.length (u ++ t) = substituteFrom rule 0 t := by
  induction u with
  | nil => rfl
  | cons c u ih => exact ih

/-- What a rule takes gives way to what it puts there. -/
theorem substituteFrom_of_rule {u : Text} (hu : u ≠ [])
    (hrule : rule (u ++ t) = some (u.length, new)) :
    substituteFrom rule 0 (u ++ t) = new ++ substituteFrom rule 0 t := by
  obtain ⟨c, u, rfl⟩ := List.exists_cons_of_ne_nil hu
  rw [List.cons_append] at hrule ⊢
  rw [substituteFrom, hrule]
  simp only [List.length_cons, Nat.add_sub_cancel, substituteFrom_length]

theorem upTo_append {u : Text} : upTo (u ++ t) t new = (u.length, new) := by
  rw [upTo, List.length_append, Nat.add_sub_cancel]

/-- A replacement goes past a text in front of which its rule applies nowhere. -/
theorem substituteFrom_append {u : Text} (hrule : ∀ v, v <:+ u → v ≠ [] → rule (v ++ t) = none) :
    substituteFrom rule 0 (u ++ t) = u ++ substituteFrom rule 0 t := by
  induction u with
  | nil => rfl
  | cons c u ih =>
    have hhere := hrule (c :: u) List.suffix_rfl (List.cons_ne_nil c u)
    rw [List.cons_append] at hhere
    rw [List.cons_append, substituteFrom, hhere]
    simp only
    rw [ih fun v hv ↦ hrule v (hv.trans (List.suffix_cons c u)), List.cons_append]

/-- A replacement goes past a text without the character that its rule begins with. -/
theorem substituteFrom_append_of_not_mem {u : Text}
    (hrule : ∀ s : Text, s.head? ≠ some x → rule s = none) (hx : x ∉ u) :
    substituteFrom rule 0 (u ++ t) = u ++ substituteFrom rule 0 t := by
  refine substituteFrom_append fun v hv hne ↦ hrule _ ?_
  obtain ⟨c, v, rfl⟩ := List.exists_cons_of_ne_nil hne
  rintro ⟨rfl⟩
  exact hx (hv.subset List.mem_cons_self)

/-- A replacement goes past a text without some character that its rule needs, if the rule cannot
run into what follows. -/
theorem substituteFrom_append_of_not_prefix {u : Text}
    (hrule : ∀ s, ¬start <+: s → rule s = none) (hx : x ∈ start) (hu : x ∉ u)
    (ht : ∀ c ∈ t.head?, c ∉ start) :
    substituteFrom rule 0 (u ++ t) = u ++ substituteFrom rule 0 t :=
  substituteFrom_append fun _ hv _ ↦
    hrule _ (not_prefix_append hx (fun hmem ↦ hu (hv.subset hmem)) ht)

/-- A replacement goes through texts that are put together one by one, if it goes past what divides
them. -/
theorem substitute_join {α : Type} {f g : α → Text} {l : List α}
    (hpiece : ∀ a ∈ l, ∀ rest, rest = [] ∨ sep <+: rest →
      substituteFrom rule 0 (f a ++ rest) = g a ++ substituteFrom rule 0 rest)
    (hsep : ∀ rest, substituteFrom rule 0 (sep ++ rest) = sep ++ substituteFrom rule 0 rest) :
    substitute rule (join sep (l.map f)) = join sep (l.map g) := by
  rw [substitute]
  induction l with
  | nil => rfl
  | cons a l ih =>
    have hrest := ih fun b hb ↦ hpiece b (List.mem_cons_of_mem _ hb)
    have hhere := hpiece a List.mem_cons_self
    cases l with
    | nil => simpa [substituteFrom, join] using hhere [] (Or.inl rfl)
    | cons b l =>
      rw [List.map_cons, List.map_cons, join, ← List.map_cons,
        hhere _ (Or.inr (List.prefix_append sep _)), hsep, hrest]
      rfl

/-- A replacement does nothing where its rule applies nowhere. -/
theorem substitute_eq_self (hrule : ∀ s, s <:+ t → rule s = none) : substitute rule t = t := by
  have hpast := @substituteFrom_append [] rule t fun v hv _ ↦ by
    rw [List.append_nil]
    exact hrule v hv
  simpa [substitute, substituteFrom] using hpast

/-- A replacement does nothing where a character does not occur that its rule needs. -/
theorem substitute_eq_self_of_not_mem (hrule : ∀ s, x ∉ s → rule s = none) (hx : x ∉ t) :
    substitute rule t = t :=
  substitute_eq_self fun s hs ↦ hrule s fun hmem ↦ hx (hs.subset hmem)

/-- Where a rule first applies: nowhere, or at the longest end of the text that it applies to. -/
theorem substituteFirst_cases (rule : Rule) (t : Text) :
    (substituteFirst rule t = t ∧ ∀ s, s <:+ t → s ≠ [] → rule s = none) ∨
    ∃ before s size replacement, t = before ++ s ∧ rule s = some (size, replacement) ∧
      substituteFirst rule t = before ++ (replacement ++ s.drop size) ∧
      ∀ u, u <:+ t → s.length < u.length → rule u = none := by
  induction t with
  | nil => exact Or.inl ⟨rfl, fun s hs hne ↦ absurd (List.suffix_nil.mp hs) hne⟩
  | cons c t ih =>
    cases hrule : rule (c :: t) with
    | some found =>
      obtain ⟨size, replacement⟩ := found
      refine Or.inr ⟨[], c :: t, size, replacement, rfl, hrule, ?_, fun u hu hlength ↦ ?_⟩
      · rw [substituteFirst, hrule]
        rfl
      · exact absurd hu.length_le (Nat.not_le.mpr hlength)
    | none =>
      have hnext : substituteFirst rule (c :: t) = c :: substituteFirst rule t := by
        rw [substituteFirst, hrule]
      have hlater {u : Text} (hu : u <:+ c :: t) : u = c :: t ∨ u <:+ t :=
        List.suffix_cons_iff.mp hu
      rcases ih with ⟨heq, hnone⟩ | ⟨before, s, size, replacement, rfl, hsome, heq, hlongest⟩
      · refine Or.inl ⟨by rw [hnext, heq], fun u hu hne ↦ ?_⟩
        rcases hlater hu with rfl | hu
        · exact hrule
        · exact hnone u hu hne
      · refine Or.inr ⟨c :: before, s, size, replacement, rfl, hsome, by rw [hnext, heq]; rfl, ?_⟩
        intro u hu hlength
        rcases hlater hu with rfl | hu
        · exact hrule
        · exact hlongest u hu hlength

theorem isAtEnd_iff : isAtEnd t = true ↔ t = [] ∨ t = "\n" := by
  unfold isAtEnd
  split <;> simp_all

/-- Replacing a text is replacing by the rule that looks for it. -/
theorem replace_eq_substitute :
    replace old new t =
      substitute (fun s ↦ if startsWith old s then some (old.length, new) else none) t := by
  rw [replace, substitute]
  generalize 0 = skip
  induction t generalizing skip with
  | nil => rfl
  | cons c t ih =>
    cases skip with
    | succ skip => exact ih skip
    | zero =>
      rw [replaceFrom, substituteFrom]
      split
      · simp only [ih]
      · simp only [ih]

theorem replace_eq_self (hx : x ∈ old) (ht : x ∉ t) : replace old new t = t := by
  rw [replace]
  induction t with
  | nil => rfl
  | cons c t ih =>
    rw [replaceFrom, startsWith_eq_false hx ht, if_neg Bool.false_ne_true,
      ih (mt (List.mem_cons_of_mem _) ht)]

theorem replace_cons {c : Char} (hc : c ≠ x) (rest : Text) :
    replace (x :: old) new (c :: rest) = c :: replace (x :: old) new rest := by
  have hstart : startsWith (x :: old) (c :: rest) = false := by
    simp [startsWith, List.isPrefixOf_cons_cons, hc.symm]
  rw [replace, replaceFrom, hstart, if_neg Bool.false_ne_true, ← replace]

/-- A replacement goes through a text character by character, if no match begins in the text of one
character and ends in that of the next. -/
theorem replace_flatMap {f g : Char → Text}
    (h : ∀ c rest, replace old new (f c ++ rest) = g c ++ replace old new rest) :
    replace old new (t.flatMap f) = t.flatMap g := by
  induction t with
  | nil => rfl
  | cons c t ih => rw [List.flatMap_cons, List.flatMap_cons, h, ih]

/-- A single character gives way to a text wherever it stands. -/
theorem replace_singleton (x : Char) (new t : Text) :
    replace [x] new t = t.flatMap fun c ↦ if c = x then new else [c] := by
  rw [replace]
  induction t with
  | nil => rfl
  | cons c t ih =>
    rw [replaceFrom, List.flatMap_cons, ← ih]
    by_cases hc : c = x
    · simp [startsWith, hc]
    · simp [startsWith, hc, Ne.symm hc]

theorem not_mem_unifyLineEnds (t : Text) : '\r' ∉ unifyLineEnds t := by
  fun_induction unifyLineEnds t with
  | case1 => exact List.not_mem_nil
  | case2 t ih => exact List.not_mem_cons_of_ne_of_not_mem (by decide) ih
  | case3 t _ ih => exact List.not_mem_cons_of_ne_of_not_mem (by decide) ih
  | case4 c t _ hne ih => exact List.not_mem_cons_of_ne_of_not_mem (fun heq ↦ hne heq.symm) ih

theorem unifyLineEnds_eq_self (ht : '\r' ∉ t) : unifyLineEnds t = t := by
  fun_induction unifyLineEnds t with
  | case1 => rfl
  | case2 t ih => simp at ht
  | case3 t _ ih => simp at ht
  | case4 c t hne hne' ih => rw [ih (mt (List.mem_cons_of_mem _) ht)]

theorem escapeWith_eq_self {f : Char → Text} (hf : ∀ c ∈ t, f c = [c]) : escapeWith f t = t := by
  induction t with
  | nil => rfl
  | cons c t ih =>
    rw [escapeWith, List.flatMap_cons, hf c List.mem_cons_self]
    exact congrArg (c :: ·) (ih fun d hd ↦ hf d (List.mem_cons_of_mem _ hd))

/-! ### The ends of a text -/

theorem trimStart_eq_self {p : Char → Bool} {c : Char} (hc : p c = false) :
    trimStart p (c :: t) = c :: t := by
  simp [trimStart, hc]

theorem trimEnd_concat_of_true {p : Char → Bool} {c : Char} (hc : p c = true) :
    trimEnd p (t ++ [c]) = trimEnd p t := by
  simp [trimEnd, hc]

theorem trimEnd_concat_of_false {p : Char → Bool} {c : Char} (hc : p c = false) :
    trimEnd p (t ++ [c]) = t ++ [c] := by
  simp [trimEnd, hc]

theorem trimEnd_append_of_all {p : Char → Bool} {s : Text} (hs : ∀ c ∈ s, p c = true) :
    trimEnd p (t ++ s) = trimEnd p t := by
  have hdrop : (s.reverse ++ t.reverse).dropWhile p = t.reverse.dropWhile p :=
    List.dropWhile_append_of_pos fun c hc ↦ hs c (List.mem_reverse.mp hc)
  rw [trimEnd, List.reverse_append, hdrop, trimEnd]

/-- Nothing is trimmed where no character of the class stands at an end. -/
theorem trim_eq_self {p : Char → Bool} (hstart : ∀ c ∈ t.head?, p c = false)
    (hend : ∀ c ∈ t.getLast?, p c = false) : trim p t = t := by
  obtain rfl | ⟨before, d, rfl⟩ := List.eq_nil_or_concat t
  · rfl
  rw [List.concat_eq_append] at hstart hend ⊢
  have hd : p d = false := hend d List.getLast?_concat
  have hkept : trimStart p (before ++ [d]) = before ++ [d] := by
    cases before with
    | nil => exact trimStart_eq_self hd
    | cons c before => exact trimStart_eq_self (hstart c rfl)
  rw [trim, hkept, trimEnd_concat_of_false hd]

theorem trim_concat_of_true {p : Char → Bool} {c : Char} (hc : p c = true) :
    trim p (t ++ [c]) = trim p t := by
  have hlast : [c].dropWhile p = [] := by rw [List.dropWhile_cons_of_pos hc, List.dropWhile_nil]
  rw [trim, trim, trimStart, trimStart, List.dropWhile_append, hlast]
  split
  · next hempty => rw [List.isEmpty_iff.mp hempty]
  · exact trimEnd_concat_of_true hc

theorem trim_trimStart (p : Char → Bool) (t : Text) : trim p (trimStart p t) = trim p t :=
  congrArg (trimEnd p) (List.dropWhile_idempotent p t)

/-- A line break at the end of a line is white space. -/
theorem strip_dropEnding (t : Text) : strip (dropEnding "\r" t) = strip t := by
  by_cases hend : endsWith "\r" t
  · obtain ⟨s, rfl⟩ := List.isSuffixOf_iff_suffix.mp hend
    have hs : dropEnding "\r" (s ++ "\r") = s := by
      rw [dropEnding, if_pos hend, List.length_append, Nat.add_sub_cancel, List.take_left]
    rw [hs]
    exact (trim_concat_of_true (by decide)).symm
  · rw [dropEnding, if_neg hend]

theorem stripStart_eq_cons {c : Char} {rest : Text} (h : stripStart t = c :: rest) :
    ∃ blanks, t = blanks ++ c :: rest ∧ (∀ x ∈ blanks, isBlank x = true) ∧ isBlank c = false := by
  refine ⟨t.takeWhile isBlank, ?_, fun x hx ↦ List.mem_takeWhile_imp hx, ?_⟩
  · rw [← h]
    exact List.takeWhile_append_dropWhile.symm
  · have hdrop : t.dropWhile isBlank = c :: rest := h
    have hhead := List.head_dropWhile_not isBlank (l := t) (by simp [hdrop])
    simpa [hdrop] using hhead

theorem mem_of_mem_trim {p : Char → Bool} (h : x ∈ trim p t) : x ∈ t := by
  rw [trim, trimEnd, List.mem_reverse] at h
  have h := (List.dropWhile_sublist _).subset h
  rw [List.mem_reverse] at h
  exact (List.dropWhile_sublist _).subset h

/-- Characters of the class stand before and after what trimming leaves. -/
theorem exists_eq_append_trim (p : Char → Bool) (t : Text) :
    ∃ before after, t = before ++ trim p t ++ after ∧
      (∀ c ∈ before, p c = true) ∧ ∀ c ∈ after, p c = true := by
  have hend (u : Text) : u = trimEnd p u ++ (u.reverse.takeWhile p).reverse := by
    rw [trimEnd, ← List.reverse_append, List.takeWhile_append_dropWhile, List.reverse_reverse]
  refine ⟨t.takeWhile p, ((trimStart p t).reverse.takeWhile p).reverse, ?_,
    fun c hc ↦ List.mem_takeWhile_imp hc,
    fun c hc ↦ List.mem_takeWhile_imp (List.mem_reverse.mp hc)⟩
  rw [List.append_assoc, trim, ← hend, trimStart, List.takeWhile_append_dropWhile]

/-- No character of the class is left at the start. -/
theorem head?_trim {p : Char → Bool} (hx : (trim p t).head? = some x) : p x = false := by
  have hstart := List.head?_dropWhile_not p t
  have hprefix : trim p t <+: trimStart p t :=
    List.reverse_suffix.mp (by simpa [trim, trimEnd] using List.dropWhile_suffix p)
  obtain ⟨rest, hrest⟩ := hprefix
  have hhead : (trimStart p t).head? = some x := by
    rw [← hrest, List.head?_append, hx, Option.some_or]
  rw [trimStart] at hhead
  simpa [hhead] using hstart

/-- No character of the class is left at the end. -/
theorem getLast?_trim {p : Char → Bool} (hx : (trim p t).getLast? = some x) : p x = false := by
  have hend := List.head?_dropWhile_not p (trimStart p t).reverse
  rw [trim, trimEnd, List.getLast?_reverse] at hx
  simpa [hx] using hend

/-! ### Words -/

/-- A text without white space is one word. -/
theorem words_eq_singleton (hne : t ≠ []) (ht : ∀ c ∈ t, isBlank c = false) : words t = [t] := by
  have hfrom (c : Char) (word t : Text) (ht : ∀ c ∈ t, isBlank c = false) :
      wordsFrom (c :: word) t = [(c :: word).reverse ++ t] := by
    induction t generalizing c word with
    | nil => simp [wordsFrom]
    | cons d t ih =>
      rw [wordsFrom, ht d List.mem_cons_self, if_neg Bool.false_ne_true,
        ih d (c :: word) fun e he ↦ ht e (List.mem_cons_of_mem _ he)]
      simp
  obtain ⟨c, t, rfl⟩ := List.exists_cons_of_ne_nil hne
  rw [words, wordsFrom, ht c List.mem_cons_self, if_neg Bool.false_ne_true,
    hfrom c [] t fun d hd ↦ ht d (List.mem_cons_of_mem _ hd)]
  rfl

/-! ### Up to a character -/

theorem drop_takeWhile (p : Char → Bool) (t : Text) :
    t.drop (t.takeWhile p).length = t.dropWhile p :=
  (congrArg (List.drop _) List.takeWhile_append_dropWhile.symm).trans List.drop_left

/-- A front that satisfies a test is all that is taken if what follows begins otherwise. -/
theorem takeWhile_append_of_head? {α : Type} {p : α → Bool} {s t : List α}
    (hkeep : ∀ a ∈ s, p a = true) (hstop : ∀ a ∈ t.head?, p a = false) :
    (s ++ t).takeWhile p = s := by
  rw [List.takeWhile_append_of_pos hkeep]
  cases t with
  | nil => exact List.append_nil s
  | cons a t =>
    rw [List.takeWhile_cons_of_neg (Bool.eq_false_iff.mp (hstop a rfl)), List.append_nil]

theorem takeWhile_append_stop {s : Text} (hx : x ∉ s) : (s ++ x :: t).takeWhile (· != x) = s :=
  takeWhile_append_of_head? (fun _ hc ↦ bne_iff_ne.mpr (ne_of_mem_of_not_mem hc hx))
    fun _ hc ↦ by simp [← Option.mem_some_iff.mp hc]

theorem takeWhile_ne_eq_self (hx : x ∉ t) : t.takeWhile (· != x) = t :=
  List.takeWhile_eq_self_iff.mpr fun _ hc ↦ bne_iff_ne.mpr (ne_of_mem_of_not_mem hc hx)

theorem dropWhile_append_stop {s : Text} (hx : x ∉ s) :
    (s ++ x :: t).dropWhile (· != x) = x :: t := by
  rw [← drop_takeWhile, takeWhile_append_stop hx, List.drop_left]

theorem dropWhile_ne_eq_nil_iff : t.dropWhile (· != x) = [] ↔ x ∉ t := by
  rw [List.dropWhile_eq_nil_iff]
  constructor
  · intro hall hmem
    simpa using hall _ hmem
  · intro hmem c hc
    exact bne_iff_ne.mpr (ne_of_mem_of_not_mem hc hmem)

/-! ### Pieces of a text -/

/-- A text is taken apart at every occurrence of a character. -/
theorem splitOn_append_cons (c : Char) (s t : Text) :
    splitOn c (s ++ c :: t) = splitOn c s ++ splitOn c t := by
  induction s with
  | nil =>
    obtain ⟨piece, rest, hsplit⟩ := List.exists_cons_of_ne_nil (splitOn_ne_nil c t)
    simp [splitOn, hsplit]
  | cons d s ih =>
    obtain ⟨piece, rest, hsplit⟩ := List.exists_cons_of_ne_nil (splitOn_ne_nil c s)
    rw [List.cons_append, splitOn, ih, splitOn, hsplit]
    simp only [List.cons_append]
    split <;> rfl

theorem splitOn_eq_singleton {c : Char} (ht : c ∉ t) : splitOn c t = [t] := by
  induction t with
  | nil => rfl
  | cons d t ih =>
    have hne : d ≠ c := fun heq ↦ ht (heq ▸ List.mem_cons_self)
    rw [splitOn, ih (mt (List.mem_cons_of_mem _) ht)]
    simp [hne]

theorem splitOn_append {c : Char} {s : Text} (hs : c ∉ s) :
    splitOn c (s ++ c :: t) = s :: splitOn c t := by
  rw [splitOn_append_cons, splitOn_eq_singleton hs, List.singleton_append]

/-- No piece holds the character that divides them. -/
theorem not_mem_of_mem_splitOn {c : Char} {piece : Text} (hpiece : piece ∈ splitOn c t) :
    c ∉ piece := by
  induction t generalizing piece with
  | nil =>
    rw [splitOn, List.mem_singleton] at hpiece
    simp [hpiece]
  | cons d t ih =>
    obtain ⟨first, rest, hsplit⟩ := List.exists_cons_of_ne_nil (splitOn_ne_nil c t)
    rw [hsplit] at ih
    rw [splitOn, hsplit] at hpiece
    simp only at hpiece
    split at hpiece
    · rcases List.mem_cons.mp hpiece with rfl | hpiece
      · exact List.not_mem_nil
      · exact ih hpiece
    · next hd =>
      rcases List.mem_cons.mp hpiece with rfl | hpiece
      · exact List.not_mem_cons_of_ne_of_not_mem (Ne.symm hd) (ih List.mem_cons_self)
      · exact ih (List.mem_cons_of_mem _ hpiece)

/-- The last piece of a text ends as the text does. -/
theorem exists_getLast?_splitOn_append {c : Char} {ending : Text} (hending : c ∉ ending)
    (t : Text) : ∃ before, (splitOn c (t ++ ending)).getLast? = some (before ++ ending) := by
  induction t with
  | nil => exact ⟨[], by rw [List.nil_append, splitOn_eq_singleton hending]; rfl⟩
  | cons d t ih =>
    obtain ⟨before, hlast⟩ := ih
    obtain ⟨first, rest, hsplit⟩ :=
      List.exists_cons_of_ne_nil (splitOn_ne_nil c (t ++ ending))
    rw [hsplit] at hlast
    rw [List.cons_append, splitOn, hsplit]
    simp only
    split
    · exact ⟨before, by rw [List.getLast?_cons_cons, hlast]⟩
    · cases rest with
      | nil =>
        rw [List.getLast?_singleton, Option.some.injEq] at hlast
        exact ⟨d :: before, by rw [hlast]; rfl⟩
      | cons next rest => exact ⟨before, by rw [List.getLast?_cons_cons] at hlast ⊢; exact hlast⟩

theorem mem_of_mem_splitOn {c : Char} {piece : Text} (hpiece : piece ∈ splitOn c t)
    (hx : x ∈ piece) : x ∈ t := by
  induction t generalizing piece with
  | nil =>
    rw [splitOn, List.mem_singleton] at hpiece
    rw [hpiece] at hx
    exact hx
  | cons d t ih =>
    obtain ⟨first, rest, hsplit⟩ := List.exists_cons_of_ne_nil (splitOn_ne_nil c t)
    rw [splitOn, hsplit] at hpiece
    simp only at hpiece
    rw [hsplit] at ih
    split at hpiece
    · rcases List.mem_cons.mp hpiece with rfl | hpiece
      · cases hx
      · exact List.mem_cons_of_mem _ (ih hpiece hx)
    · rcases List.mem_cons.mp hpiece with rfl | hpiece
      · rcases List.mem_cons.mp hx with rfl | hx
        · exact List.mem_cons_self
        · exact List.mem_cons_of_mem _ (ih List.mem_cons_self hx)
      · exact List.mem_cons_of_mem _ (ih (List.mem_cons_of_mem _ hpiece) hx)

/-- A text is taken apart at a blank line, if no other one stands before it. -/
theorem splitOnText_append {c : Char} {s : Text} (hs : s.IsChain fun a b ↦ ¬(a = c ∧ b = c))
    (hlast : s.getLast? ≠ some c) :
    splitOnText [c, c] (s ++ c :: c :: t) = s :: splitOnText [c, c] t := by
  rw [splitOnText, splitOnText]
  induction s with
  | nil => simp [splitOnFrom, startsWith]
  | cons d s ih =>
    obtain ⟨hfirst, hrest⟩ := List.isChain_cons.mp hs
    have hstart : startsWith [c, c] (d :: (s ++ c :: c :: t)) = false := by
      cases s with
      | nil =>
        have hne : ¬c = d := fun heq ↦ hlast (by rw [heq]; rfl)
        simp [startsWith, List.isPrefixOf_cons_cons, hne]
      | cons e s =>
        have hne := hfirst e rfl
        simp only [startsWith, List.cons_append, List.isPrefixOf_cons_cons, Bool.and_eq_false_iff,
          beq_eq_false_iff_ne]
        by_cases hd : c = d
        · exact Or.inr (Or.inl fun he ↦ hne ⟨hd.symm, he.symm⟩)
        · exact Or.inl hd
    have hlast' : s.getLast? ≠ some c := by
      cases s with
      | nil => simp
      | cons e s => simpa using hlast
    rw [List.cons_append, splitOnFrom, hstart, if_neg Bool.false_ne_true, ih hrest hlast']

theorem head?_of_splitOn_eq {sep c : Char} {piece : Text} {rest : List Text}
    (h : splitOn sep t = piece :: rest) (hpiece : piece.head? = some c) : t.head? = some c := by
  cases t with
  | nil =>
    obtain ⟨rfl, -⟩ := List.cons.inj h
    exact hpiece
  | cons d t =>
    obtain ⟨first, later, hsplit⟩ := List.exists_cons_of_ne_nil (splitOn_ne_nil sep t)
    rw [splitOn, hsplit] at h
    simp only at h
    split at h
    · obtain ⟨rfl, -⟩ := List.cons.inj h
      cases hpiece
    · obtain ⟨rfl, -⟩ := List.cons.inj h
      exact hpiece

/-- No line after the first one begins with a character that follows no line feed. -/
theorem head?_ne_of_mem_tail_lines {line : Text} {c : Char}
    (ht : t.IsChain fun a b ↦ ¬(a = '\n' ∧ b = c)) (hline : line ∈ (lines t).tail) :
    line.head? ≠ some c := by
  induction t with
  | nil => simp [splitOn] at hline
  | cons d t ih =>
    obtain ⟨hfirst, hrest⟩ := List.isChain_cons.mp ht
    obtain ⟨first, later, hsplit⟩ := List.exists_cons_of_ne_nil (splitOn_ne_nil '\n' t)
    have hlater (hmem : line ∈ later) := ih hrest (by rwa [lines, hsplit])
    rw [lines, splitOn, hsplit] at hline
    simp only at hline
    split at hline
    · next hd =>
      rcases List.mem_cons.mp hline with rfl | hline
      · exact fun hhead ↦ hfirst c (head?_of_splitOn_eq hsplit hhead) ⟨hd, rfl⟩
      · exact hlater hline
    · exact hlater hline

/-! ### Pieces put together -/

theorem join_cons (sep t : Text) (ls : List Text) :
    join sep (t :: ls) = t ++ ls.flatMap (sep ++ ·) := by
  induction ls generalizing t with
  | nil => simp [join]
  | cons u ls ih => rw [join, ih, List.flatMap_cons, List.append_assoc]

/-- What the last piece ends with, all that is put together ends with. -/
theorem join_concat_append (sep : Text) (ls : List Text) (t u : Text) :
    join sep (ls ++ [t ++ u]) = join sep (ls ++ [t]) ++ u := by
  cases ls with
  | nil => rfl
  | cons v ls => simp [join_cons]

/-- Two lists of pieces are put together with one more separator between them. -/
theorem join_append {before after : List Text} (hbefore : before ≠ []) (hafter : after ≠ []) :
    join sep (before ++ after) = join sep before ++ (sep ++ join sep after) := by
  obtain ⟨t, before, rfl⟩ := List.exists_cons_of_ne_nil hbefore
  obtain ⟨u, after, rfl⟩ := List.exists_cons_of_ne_nil hafter
  simp [join_cons]

theorem join_concat {ls : List Text} (hls : ls ≠ []) (t : Text) :
    join sep (ls ++ [t]) = join sep ls ++ (sep ++ t) :=
  join_append hls (List.cons_ne_nil t [])

theorem join_append_sep {ls : List Text} (hls : ls ≠ []) :
    join sep ls ++ sep = ls.flatMap fun t ↦ t ++ sep := by
  induction ls with
  | nil => exact absurd rfl hls
  | cons t ls ih =>
    cases ls with
    | nil => simp [join]
    | cons u ls =>
      rw [List.flatMap_cons, ← ih (List.cons_ne_nil u ls)]
      simp [join]

theorem mem_of_mem_join {ls : List Text} (hx : x ∈ join sep ls) :
    x ∈ sep ∨ ∃ piece ∈ ls, x ∈ piece := by
  induction ls with
  | nil => simp [join] at hx
  | cons t ls ih =>
    cases ls with
    | nil => exact Or.inr ⟨t, List.mem_cons_self, hx⟩
    | cons u ls =>
      rw [join, List.mem_append, List.mem_append] at hx
      rcases hx with hx | hx | hx
      · exact Or.inr ⟨t, List.mem_cons_self, hx⟩
      · exact Or.inl hx
      · obtain hsep | ⟨piece, hpiece, hx⟩ := ih hx
        · exact Or.inl hsep
        · exact Or.inr ⟨piece, List.mem_cons_of_mem _ hpiece, hx⟩

/-- What was put together is taken apart where it was, and within the pieces. -/
theorem splitOn_join_eq_flatMap {c : Char} {ls : List Text} (hls : ls ≠ []) :
    splitOn c (join [c] ls) = ls.flatMap (splitOn c) := by
  induction ls with
  | nil => exact absurd rfl hls
  | cons t ls ih =>
    cases ls with
    | nil => exact (List.append_nil _).symm
    | cons u ls =>
      rw [join, List.singleton_append, splitOn_append_cons, ih (List.cons_ne_nil u ls)]
      rfl

/-- Pieces put together with a character that none of them holds are taken apart again. -/
theorem splitOn_join {c : Char} {ls : List Text} (hls : ls ≠ []) (hc : ∀ piece ∈ ls, c ∉ piece) :
    splitOn c (join [c] ls) = ls := by
  rw [splitOn_join_eq_flatMap hls]
  clear hls
  induction ls with
  | nil => rfl
  | cons t ls ih =>
    obtain ⟨ht, hrest⟩ := List.forall_mem_cons.mp hc
    rw [List.flatMap_cons, splitOn_eq_singleton ht, ih hrest, List.singleton_append]

/-- Pieces that are not empty are put together without two dividing characters in a row. -/
theorem isChain_join {c : Char} {ls : List Text} (hls : ∀ piece ∈ ls, piece ≠ [] ∧ c ∉ piece) :
    (join [c] ls).IsChain fun a b ↦ ¬(a = c ∧ b = c) := by
  have hpiece {t : Text} (ht : c ∉ t) : t.IsChain fun a b ↦ ¬(a = c ∧ b = c) :=
    List.isChain_iff_getElem.mpr fun _ _ hboth ↦ ht (hboth.1 ▸ List.getElem_mem _)
  induction ls with
  | nil => exact List.IsChain.nil
  | cons t ls ih =>
    have ht := hpiece (hls t List.mem_cons_self).2
    cases ls with
    | nil => exact ht
    | cons u ls =>
      have hrest := ih fun piece hmem ↦ hls piece (List.mem_cons_of_mem _ hmem)
      obtain ⟨hne, hu⟩ := hls u (List.mem_cons_of_mem _ List.mem_cons_self)
      obtain ⟨d, u, rfl⟩ := List.exists_cons_of_ne_nil hne
      obtain ⟨rest, hjoin⟩ : ∃ rest, join [c] ((d :: u) :: ls) = d :: rest := by
        cases ls <;> exact ⟨_, rfl⟩
      have hd : d ≠ c := fun heq ↦ hu (heq ▸ List.mem_cons_self)
      rw [join, List.singleton_append]
      rw [hjoin] at hrest ⊢
      refine ht.append (List.isChain_cons_cons.mpr ⟨fun hboth ↦ hd hboth.2, hrest⟩) ?_
      intro a ha b _ hboth
      exact (hls t List.mem_cons_self).2 (hboth.1 ▸ List.mem_of_mem_getLast? ha)

/-- There is one piece more than there are dividing characters. -/
theorem length_splitOn (c : Char) (t : Text) : (splitOn c t).length = t.count c + 1 := by
  induction t with
  | nil => rfl
  | cons d t ih =>
    obtain ⟨piece, rest, hsplit⟩ := List.exists_cons_of_ne_nil (splitOn_ne_nil c t)
    rw [hsplit, List.length_cons] at ih
    rw [splitOn, hsplit, List.count_cons]
    by_cases hd : d = c
    · simp only [hd, if_true, List.length_cons, ih, beq_self_eq_true]
    · simp only [hd, if_false, List.length_cons, ih, beq_iff_eq, Nat.add_zero]

theorem length_splitOn_le (c : Char) (t : Text) : (splitOn c t).length ≤ t.length + 1 := by
  rw [length_splitOn]
  exact Nat.succ_le_succ List.count_le_length

theorem length_le_length_flatMap_splitOn (c : Char) (ls : List Text) :
    ls.length ≤ (ls.flatMap (splitOn c)).length := by
  induction ls with
  | nil => exact Nat.le_refl 0
  | cons t ls ih =>
    rw [List.flatMap_cons, List.length_append, length_splitOn, List.length_cons]
    omega

/-- What is taken apart into no more pieces than it was put together from has no dividing character
within a piece. -/
theorem forall_notMem_of_length_flatMap_splitOn {c : Char} {ls : List Text}
    (h : (ls.flatMap (splitOn c)).length = ls.length) : ∀ t ∈ ls, c ∉ t := by
  induction ls with
  | nil => exact fun t ht ↦ absurd ht List.not_mem_nil
  | cons t ls ih =>
    have hle := length_le_length_flatMap_splitOn c ls
    rw [List.flatMap_cons, List.length_append, length_splitOn, List.length_cons] at h
    refine List.forall_mem_cons.mpr ⟨List.count_eq_zero.mp (by omega), ih (by omega)⟩

/-- What is put together ends with its last piece. -/
theorem exists_join_concat (sep : Text) (ls : List Text) :
    ∃ before, join sep (ls ++ [t]) = before ++ t := by
  induction ls with
  | nil => exact ⟨[], rfl⟩
  | cons u ls ih =>
    obtain ⟨before, hjoin⟩ := ih
    obtain ⟨v, rest, hrest⟩ := List.exists_cons_of_ne_nil (List.append_ne_nil_of_right_ne_nil ls
      (List.cons_ne_nil t []))
    refine ⟨u ++ (sep ++ before), ?_⟩
    rw [List.cons_append, hrest, join, ← hrest, hjoin]
    simp

/-! ### Numbers -/

variable {n : ℕ} {c : Char}

theorem toNat_of_isDigit (hc : c.isDigit = true) : 48 ≤ c.toNat ∧ c.toNat ≤ 57 := by
  obtain ⟨hlow, hhigh⟩ := (Bool.and_eq_true _ _).mp hc
  exact ⟨UInt32.le_iff_toNat_le.mp (of_decide_eq_true hlow),
    UInt32.le_iff_toNat_le.mp (of_decide_eq_true hhigh)⟩

theorem isDecimal_of_isDigit (hc : c.isDigit = true) : isDecimal c = true := by
  have hrange := toNat_of_isDigit hc
  rw [isDecimal, if_pos (by omega), hc]

theorem decimalValue?_of_isDigit (hc : c.isDigit = true) :
    decimalValue? c = some (c.toNat - '0'.toNat) := by
  have hrange := toNat_of_isDigit hc
  rw [decimalValue?, if_pos (by omega), if_pos hc]

theorem ofNat_eq_toDigits : ofNat n = Nat.toDigits 10 n := Nat.toList_repr

theorem ofNat_ne_nil : ofNat n ≠ [] := by
  rw [ofNat_eq_toDigits]
  exact Nat.toDigits_ne_nil

theorem isDigit_of_mem_ofNat (hc : c ∈ ofNat n) : c.isDigit = true := by
  rw [ofNat_eq_toDigits] at hc
  exact Nat.isDigit_of_mem_toDigits (by decide) (by decide) hc

theorem foldl_digits {f : Option Nat → Char → Option Nat} {digits : Text}
    (hf : ∀ k, ∀ c ∈ digits, f (some k) c = some (10 * k + (c.toNat - '0'.toNat))) (k : Nat) :
    digits.foldl f (some k) = some (Nat.ofDigitChars 10 digits k) := by
  induction digits generalizing k with
  | nil => rfl
  | cons c digits ih =>
    rw [List.foldl_cons, hf k c List.mem_cons_self]
    exact ih (fun k d hd ↦ hf k d (List.mem_cons_of_mem _ hd)) _

/-- The digits of a number are read as this number. -/
theorem decimalNumber?_ofNat : decimalNumber? (ofNat n) = some n := by
  have hne : (ofNat n).isEmpty = false := by simpa using ofNat_ne_nil
  rw [decimalNumber?, hne, if_neg Bool.false_ne_true, foldl_digits,
    ofNat_eq_toDigits, Nat.ofDigitChars_ten_toDigits]
  intro k c hc
  rw [decimalValue?_of_isDigit (isDigit_of_mem_ofNat hc)]

theorem ofNat_injective : Function.Injective ofNat := by
  intro m n h
  rw [← Option.some_inj, ← decimalNumber?_ofNat, ← decimalNumber?_ofNat, h]

/-! ### Sorting -/

theorem sortByName_perm {α : Type} (name : α → Text) (l : List α) :
    (sortByName name l).Perm l := by
  have hsort := (List.mergeSort_perm (l.map fun a ↦ (lower (name a), a))
    fun x y ↦ le x.1 y.1).map Prod.snd
  rwa [List.map_map, Function.comp_def, List.map_id'] at hsort

end ApiSite.Text
