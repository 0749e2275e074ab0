import ApiSite.Doc.LegacyLink
import ApiSite.Proofs.Text

/-!
# The steps of converting a path

A path of the older layout is converted in steps: the way to the root is dropped, endings are
replaced (`substituteFirst_replaceEnding`), a part that is repeated at the end is merged
(`merge_cases`), and what is left becomes a path from the root (`rooted`). A part is repeated where
it is a whole segment, perhaps with a line feed behind it, and ends the segment before
(`Repeats.exists_split`); it need not be the whole of that segment.
-/

set_option autoImplicit false

namespace ApiSite.Doc

open Text (join splitOn isAtEnd substituteFirst)

/-- A segment of a path that leads a step down. -/
structure IsSegment (t : Text) : Prop where
  ne_nil : t ≠ []
  slash_notMem : '/' ∉ t
  ne_dot : t ≠ "."
  ne_dots : t ≠ ".."

variable {t s x part mark rest ending replacement before last : Text} {ls init after : List Text}
  {size : Nat}

/-! ### The way to the root, and endings -/

theorem dropUps_times (n : Nat) (t : Text) : dropUps (Text.times n "../" ++ t) = dropUps t := by
  induction n with
  | zero => rfl
  | succ n ih => exact ih

theorem dropUps_eq_self (ht : ∀ rest, t ≠ '.' :: '.' :: '/' :: rest) : dropUps t = t := by
  unfold dropUps
  split
  · next rest => exact absurd rfl (ht rest)
  · rfl

theorem replaceEnding_append (hrest : isAtEnd rest = true) :
    replaceEnding ending replacement (ending ++ rest) = some (ending.length, replacement) := by
  rw [replaceEnding, Text.after?_append]
  exact if_pos hrest

theorem of_replaceEnding_eq_some (h : replaceEnding ending replacement s = some (size, t)) :
    ∃ rest, s = ending ++ rest ∧ isAtEnd rest = true ∧ size = ending.length ∧ t = replacement := by
  rw [replaceEnding] at h
  obtain ⟨rest, hafter, h⟩ := Option.bind_eq_some_iff.mp h
  split at h
  · next hrest =>
    obtain ⟨rfl, rfl⟩ := Prod.mk.inj (Option.some.inj h)
    exact ⟨rest, Text.eq_append_of_after? hafter, hrest, rfl, rfl⟩
  · cases h

/-- An ending is replaced, also with a line feed behind it. -/
theorem substituteFirst_replaceEnding (hbreak : ending.getLast? ≠ some '\n')
    (hne : ending ≠ []) (hrest : isAtEnd rest = true) :
    substituteFirst (replaceEnding ending replacement) (t ++ (ending ++ rest)) =
      t ++ (replacement ++ rest) := by
  rcases Text.substituteFirst_cases (replaceEnding ending replacement) (t ++ (ending ++ rest)) with
    ⟨-, hnone⟩ | ⟨before, s, size, found, heq, hsome, hresult, -⟩
  · have hhere : replaceEnding ending replacement (ending ++ rest) = _ := replaceEnding_append hrest
    rw [hnone _ (List.suffix_append t _) (by simp [hne])] at hhere
    cases hhere
  · obtain ⟨rest', rfl, hrest', rfl, rfl⟩ := of_replaceEnding_eq_some hsome
    have hrests : rest = rest' := by
      obtain hnil | ⟨front, c, rfl⟩ := List.eq_nil_or_concat ending
      · exact absurd hnil hne
      have hc : c ≠ '\n' := by simpa using hbreak
      have hlast := congrArg List.getLast? heq
      rcases Text.isAtEnd_iff.mp hrest with rfl | rfl <;>
        rcases Text.isAtEnd_iff.mp hrest' with rfl | rfl
      · rfl
      · simp [hc] at hlast
      · simp [hc.symm] at hlast
      · rfl
    subst hrests
    obtain rfl := List.append_cancel_right heq
    rw [hresult, List.drop_left]

theorem substituteFirst_replaceEnding_eq_self
    (h : ∀ before rest, isAtEnd rest = true → t ≠ before ++ (ending ++ rest)) :
    substituteFirst (replaceEnding ending replacement) t = t := by
  rcases Text.substituteFirst_cases (replaceEnding ending replacement) t with
    ⟨heq, -⟩ | ⟨before, s, size, found, heq, hsome, -⟩
  · exact heq
  · obtain ⟨rest, rfl, hrest, -⟩ := of_replaceEnding_eq_some hsome
    exact absurd heq (h before rest hrest)

/-! ### Repeated parts -/

/-- A text ends with a part that the end of the segment before it repeats. Behind it stand perhaps a
slash, the mark, and perhaps a line feed, the rest. -/
structure Repeats (before part mark rest t : Text) : Prop where
  ne_nil : part ≠ []
  slash_notMem : '/' ∉ part
  mark_eq : mark = [] ∨ mark = "/"
  isAtEnd_rest : isAtEnd rest = true
  eq_append : t = before ++ (part ++ '/' :: (part ++ (mark ++ rest)))

theorem mergeRepeated_eq_some (h : Repeats [] part mark rest s) :
    mergeRepeated s = some (Text.upTo s rest (part ++ ['/'])) := by
  obtain ⟨hne, hslash, hmark, hrest, heq⟩ := h
  rw [List.nil_append] at heq
  have hpart : s.takeWhile (· != '/') = part := by rw [heq, Text.takeWhile_append_stop hslash]
  have hafter : Text.after? ('/' :: part) (s.drop part.length) = some (mark ++ rest) := by
    rw [heq, List.drop_left, ← List.cons_append]
    exact Text.after?_append _ _
  have hleft : (if isAtEnd (mark ++ rest) = true then mark ++ rest
      else Text.dropStart "/" (mark ++ rest)) = rest := by
    rcases hmark with rfl | rfl
    · exact if_pos hrest
    · rfl
  rw [mergeRepeated]
  simp only [hpart, hafter, Option.bind_eq_bind, Option.bind_some, hleft]
  simp [hne, hrest]

/-- A slash in front is passed over, unless the end is reached anyway. -/
theorem exists_mark (rest : Text) : ∃ mark : Text, (mark = [] ∨ mark = "/") ∧
    rest = mark ++ if isAtEnd rest = true then rest else Text.dropStart "/" rest := by
  split
  · exact ⟨[], Or.inl rfl, rfl⟩
  · rw [Text.dropStart]
    cases hafter : Text.after? "/" rest with
    | none => exact ⟨[], Or.inl rfl, rfl⟩
    | some left => exact ⟨"/", Or.inr rfl, Text.eq_append_of_after? hafter⟩

theorem of_mergeRepeated_eq_some (h : mergeRepeated s = some (size, t)) :
    ∃ part mark rest, Repeats [] part mark rest s ∧
      Text.upTo s rest (part ++ ['/']) = (size, t) := by
  have hparts := List.takeWhile_append_dropWhile (p := (· != '/')) (l := s)
  have hslash : '/' ∉ s.takeWhile (· != '/') := fun hmem ↦ by
    simpa using List.mem_takeWhile_imp hmem
  rw [mergeRepeated] at h
  simp only [Text.drop_takeWhile] at h
  obtain ⟨behind, hafter, h⟩ := Option.bind_eq_some_iff.mp h
  obtain ⟨mark, hmark, hbehind⟩ := exists_mark behind
  generalize (if isAtEnd behind = true then behind else Text.dropStart "/" behind) = rest
    at h hbehind
  rw [Text.eq_append_of_after? hafter, hbehind] at hparts
  split at h
  · next hcond =>
    obtain ⟨hne, hend⟩ := (Bool.and_eq_true _ _).mp hcond
    refine ⟨_, mark, rest, ⟨?_, hslash, hmark, hend, hparts.symm⟩, Option.some.inj h⟩
    intro hnil
    rw [hnil] at hne
    cases hne
  · cases h

/-- No repeated part begins before the `n`-th character. -/
def NoneBefore (n : ℕ) (t : Text) : Prop :=
  ∀ before part mark rest, Repeats before part mark rest t → n ≤ before.length

/-- Where a part is repeated, the first such part is what is merged. -/
theorem merge_cases (t : Text) :
    (substituteFirst mergeRepeated t = t ∧
      ∀ before part mark rest, ¬Repeats before part mark rest t) ∨
    ∃ before part mark rest, Repeats before part mark rest t ∧
      substituteFirst mergeRepeated t = before ++ part ++ '/' :: rest ∧
      NoneBefore before.length t := by
  have hsuffix {before part mark rest : Text} (h : Repeats before part mark rest t) :
      ∃ s, t = before ++ s ∧ s ≠ [] ∧ mergeRepeated s ≠ none := by
    refine ⟨_, h.eq_append, by simp, ?_⟩
    have hhere := mergeRepeated_eq_some (s := part ++ '/' :: (part ++ (mark ++ rest)))
      ⟨h.ne_nil, h.slash_notMem, h.mark_eq, h.isAtEnd_rest, rfl⟩
    rw [hhere]
    exact Option.some_ne_none _
  rcases Text.substituteFirst_cases mergeRepeated t with
    ⟨heq, hnone⟩ | ⟨before, s, size, found, rfl, hsome, heq, hlongest⟩
  · refine Or.inl ⟨heq, fun before part mark rest h ↦ ?_⟩
    obtain ⟨s, rfl, hne, hsome⟩ := hsuffix h
    exact hsome (hnone s (List.suffix_append before s) hne)
  · obtain ⟨part, mark, rest, h, hfound⟩ := of_mergeRepeated_eq_some hsome
    obtain ⟨rfl, rfl⟩ := Prod.mk.inj hfound
    have hs := h.eq_append
    rw [List.nil_append] at hs
    refine Or.inr ⟨before, part, mark, rest, ⟨h.ne_nil, h.slash_notMem, h.mark_eq, h.isAtEnd_rest,
      by rw [← hs]⟩, ?_, fun before' part' mark' rest' h' ↦ ?_⟩
    · have hdrop : s.drop (s.length - rest.length) = rest := by
        have hend : s = part ++ '/' :: (part ++ mark) ++ rest := by rw [hs]; simp
        rw [hend, List.length_append, Nat.add_sub_cancel, List.drop_left]
      rw [heq, hdrop]
      simp
    · obtain ⟨u, hu, -, hsome'⟩ := hsuffix h'
      by_contra hlt
      refine hsome' (hlongest u ?_ ?_)
      · rw [hu]
        exact List.suffix_append before' u
      · have hlength := congrArg List.length hu
        rw [List.length_append, List.length_append] at hlength
        omega

/-- What is left of a path once the ending of the page of a library has been replaced: a line feed
stands at its end, or the name before it ends with one. -/
theorem merge_break (t : Text) :
    (∃ x, substituteFirst mergeRepeated (t ++ ['/', '\n']) = x ++ ['/', '\n']) ∨
    substituteFirst mergeRepeated (t ++ ['/', '\n']) = t ++ ['/'] ∧ ∃ x, t = x ++ ['\n'] := by
  rcases merge_cases (t ++ ['/', '\n']) with ⟨heq, -⟩ | ⟨before, part, mark, rest, h, heq, -⟩
  · exact Or.inl ⟨t, heq⟩
  · rcases Text.isAtEnd_iff.mp h.isAtEnd_rest with rfl | rfl
    · have hrepeats := h.eq_append
      rcases h.mark_eq with rfl | rfl
      · right
        have hpieces := congrArg (splitOn '/') hrepeats
        rw [List.append_nil, List.append_nil, ← List.append_assoc, Text.splitOn_append_cons,
          Text.splitOn_append_cons, Text.splitOn_eq_singleton h.slash_notMem] at hpieces
        obtain ⟨hinit, hlast⟩ := List.append_inj' hpieces rfl
        obtain rfl : ['\n'] = part := (List.cons.inj hlast).1
        have ht := congrArg (join ['/']) hinit
        rw [Text.join_splitOn, Text.join_splitOn] at ht
        exact ⟨by rw [heq, ht], before, ht⟩
      · have hend : before ++ (part ++ '/' :: (part ++ ("/".toList ++ []))) =
            before ++ (part ++ '/' :: part) ++ ['/'] := by simp
        have hreverse := congrArg List.reverse (hrepeats.trans hend)
        simp only [List.reverse_append] at hreverse
        cases hreverse
    · exact Or.inl ⟨_, heq⟩

/-! ### Addresses -/

theorem resolveParts_append (before ls after : List Text) : resolveParts before (ls ++ after) =
    resolveParts (resolveParts before ls).reverse after := by
  induction ls generalizing before with
  | nil => rw [List.nil_append, resolveParts, List.reverse_reverse]
  | cons t ls ih =>
    rw [List.cons_append, resolveParts, resolveParts]
    split
    · exact ih before
    · split
      · exact ih _
      · exact ih _

theorem resolveParts_of_isSegment (hls : ∀ t ∈ ls, IsSegment t) (before : List Text) :
    resolveParts before ls = before.reverse ++ ls := by
  induction ls generalizing before with
  | nil => rw [resolveParts, List.append_nil]
  | cons t ls ih =>
    have ht := hls t List.mem_cons_self
    rw [resolveParts, if_neg (by simp [ht.ne_nil, show t ≠ ['.'] from ht.ne_dot]),
      if_neg (by simpa using ht.ne_dots), ih fun u hu ↦ hls u (List.mem_cons_of_mem _ hu)]
    simp

/-- What is done with a path at last: one that is not from the root on lies below `/api/`, and the
path is brought into its shortest form. -/
def rooted (path : Text) : Text :=
  let path : Text := if Text.startsWith "/" path then path else "/api/" ++ path
  let plain := normalizePath path
  if Text.endsWith "/" path && !Text.endsWith "/" plain then plain ++ "/" else plain

theorem endsWith_slash_append {x : Text} (ht : IsSegment t) :
    Text.endsWith "/" (x ++ t) = false := by
  obtain hnil | ⟨front, c, rfl⟩ := List.eq_nil_or_concat t
  · exact absurd hnil ht.ne_nil
  have hc : c ≠ '/' := fun hc ↦ ht.slash_notMem (by simp [hc])
  rw [Text.endsWith, Bool.eq_false_iff, ne_eq, List.isSuffixOf_iff_suffix]
  rintro ⟨y, hy⟩
  have hlast := congrArg List.getLast? hy
  simp [hc.symm] at hlast

theorem normalizePath_address (hls : ∀ t ∈ ls, IsSegment t) (hne : ls ≠ []) {slash : Text}
    (hslash : slash = [] ∨ slash = "/") :
    normalizePath ("/api/" ++ (join "/" ls ++ slash)) = "/api/" ++ join "/" ls := by
  have hsplit : splitOn '/' ("/api/" ++ (join "/" ls ++ slash)) =
      [[], "api".toList] ++ ls ++ if slash = [] then [] else [[]] := by
    have hjoin : splitOn '/' (join "/" ls) = ls :=
      Text.splitOn_join hne fun t ht ↦ (hls t ht).slash_notMem
    have hapi (x : Text) : splitOn '/' ("/api/" ++ x) = [[], "api".toList] ++ splitOn '/' x :=
      Text.splitOn_append_cons '/' "/api" x
    have hend : splitOn '/' (join "/" ls ++ "/") = splitOn '/' (join "/" ls) ++ [[]] :=
      Text.splitOn_append_cons '/' (join "/" ls) []
    rw [hapi]
    rcases hslash with rfl | rfl
    · rw [List.append_nil, hjoin, if_pos rfl, List.append_nil]
    · rw [hend, hjoin, if_neg (by decide), List.append_assoc]
  have hresolve : resolveParts [] (splitOn '/' ("/api/" ++ (join "/" ls ++ slash))) =
      "api".toList :: ls := by
    have hfront : resolveParts [] [[], "api".toList] = ["api".toList] := rfl
    have hend (before : List Text) :
        resolveParts before (if slash = [] then [] else [[]]) = before.reverse := by
      split <;> rfl
    rw [hsplit, resolveParts_append, resolveParts_append, hfront, resolveParts_of_isSegment hls,
      hend, List.reverse_reverse]
    rfl
  rw [normalizePath, hresolve]
  obtain ⟨t, ls, rfl⟩ := List.exists_cons_of_ne_nil hne
  rfl

/-- A path of segments is left as it is, also with a slash at its end. -/
theorem rooted_join (hls : ∀ t ∈ ls, IsSegment t) (hne : ls ≠ []) {slash : Text}
    (hslash : slash = [] ∨ slash = "/") :
    rooted (join "/" ls ++ slash) = "/api/" ++ (join "/" ls ++ slash) := by
  have hstart : Text.startsWith "/" (join "/" ls ++ slash) = false := by
    obtain ⟨t, ls, rfl⟩ := List.exists_cons_of_ne_nil hne
    have ht := hls t List.mem_cons_self
    obtain ⟨c, t, rfl⟩ := List.exists_cons_of_ne_nil ht.ne_nil
    have hc : c ≠ '/' := fun hc ↦ ht.slash_notMem (by simp [hc])
    rw [Text.join_cons]
    simp [Text.startsWith, List.isPrefixOf, hc.symm]
  have hplain : Text.endsWith "/" ("/api/" ++ join "/" ls) = false := by
    obtain hnil | ⟨init, t, rfl⟩ := List.eq_nil_or_concat ls
    · exact absurd hnil hne
    rw [List.concat_eq_append] at hls ⊢
    obtain ⟨before, hjoin⟩ := Text.exists_join_concat (t := t) "/" init
    rw [hjoin, ← List.append_assoc]
    exact endsWith_slash_append (hls t (by simp))
  rw [rooted]
  simp only [hstart, Bool.false_eq_true, if_false]
  rw [normalizePath_address hls hne hslash]
  rcases hslash with rfl | rfl
  · rw [List.append_nil, hplain]
    rfl
  · have hend : Text.endsWith "/" ("/api/" ++ (join "/" ls ++ "/")) = true := by
      rw [Text.endsWith, List.isSuffixOf_iff_suffix, ← List.append_assoc]
      exact List.suffix_append _ _
    rw [hend, hplain]
    exact List.append_assoc _ _ _

theorem isSegment_break : IsSegment ['\n'] := ⟨by decide, by decide, by decide, by decide⟩

/-- A line feed behind the slash at the end is left as it is, too. -/
theorem rooted_join_slash (hls : ∀ t ∈ ls, IsSegment t) (hne : ls ≠ [])
    (hrest : isAtEnd rest = true) :
    rooted (join "/" ls ++ '/' :: rest) = "/api/" ++ (join "/" ls ++ '/' :: rest) := by
  rcases Text.isAtEnd_iff.mp hrest with rfl | rfl
  · exact rooted_join hls hne (Or.inr rfl)
  · have hbreak : ∀ t ∈ ls ++ [['\n']], IsSegment t := fun t ht ↦
      (List.mem_append.mp ht).elim (hls t) fun ht ↦ List.mem_singleton.mp ht ▸ isSegment_break
    have h : rooted (join "/" (ls ++ [['\n']]) ++ []) = _ :=
      rooted_join hbreak (by simp) (Or.inl rfl)
    rwa [List.append_nil, Text.join_concat hne] at h

/-- A line feed as the last segment of a path stays. -/
theorem exists_rooted_break (x : Text) : ∃ y, rooted (x ++ ['/', '\n']) = y ++ ['/', '\n'] := by
  obtain ⟨w, hw⟩ : ∃ w : Text, (if Text.startsWith "/" (x ++ ['/', '\n']) = true then
      x ++ ['/', '\n'] else "/api/" ++ (x ++ ['/', '\n'])) = w ++ '/' :: ['\n'] := by
    split
    · exact ⟨x, rfl⟩
    · exact ⟨"/api/" ++ x, (List.append_assoc _ _ _).symm⟩
  obtain ⟨y, hy⟩ : ∃ y, normalizePath (w ++ '/' :: ['\n']) = y ++ ['/', '\n'] := by
    have hresolve : resolveParts [] (splitOn '/' (w ++ '/' :: ['\n'])) =
        resolveParts [] (splitOn '/' w) ++ [['\n']] := by
      have hbreak : ∀ t ∈ [['\n']], IsSegment t := fun t ht ↦
        List.mem_singleton.mp ht ▸ isSegment_break
      rw [Text.splitOn_append_cons, Text.splitOn_eq_singleton (t := ['\n']) (by decide),
        resolveParts_append, resolveParts_of_isSegment hbreak, List.reverse_reverse]
    rw [normalizePath, hresolve]
    by_cases hnil : resolveParts [] (splitOn '/' w) = []
    · rw [hnil]
      split
      · exact ⟨['/'], rfl⟩
      · exact ⟨[], rfl⟩
    · rw [Text.join_concat hnil]
      exact ⟨_, (List.append_assoc _ _ _).symm⟩
  have hend : Text.endsWith "/" (w ++ '/' :: ['\n']) = false := by
    rw [List.append_cons]
    exact endsWith_slash_append isSegment_break
  refine ⟨y, ?_⟩
  rw [rooted]
  simp only [hw, hy, hend, Bool.false_and, Bool.false_eq_true, if_false]

/-! ### Paths of segments -/

/-- What a path ends with, its last segment ends with, unless there is a slash in it. -/
theorem exists_last_of_join_eq (hls : ∀ t ∈ init ++ [last], '/' ∉ t) (hending : '/' ∉ ending)
    (h : join "/" (init ++ [last]) = x ++ ending) : ∃ y, last = y ++ ending := by
  have hsplit : splitOn '/' (join "/" (init ++ [last])) = init ++ [last] :=
    Text.splitOn_join (by simp) hls
  obtain ⟨y, hy⟩ := Text.exists_getLast?_splitOn_append hending x
  rw [← h, hsplit, List.getLast?_concat] at hy
  exact ⟨y, Option.some.inj hy⟩

/-- Where a part is repeated, it ends one segment and begins the next. -/
theorem Repeats.exists_split (h : Repeats before part mark rest (join "/" ls))
    (hls : ∀ t ∈ ls, IsSegment t) (hne : ls ≠ []) : ∃ kept owner, part <:+ owner ∧
      join "/" (kept ++ [owner]) = before ++ part ∧
      (ls = kept ++ [owner] ++ [part ++ rest] ∨
        ls = kept ++ [owner, part] ++ [['\n']] ∧ rest = ['\n']) := by
  obtain ⟨-, hslash, hmark, hrest, heq⟩ := h
  have hsplit : ls = splitOn '/' (before ++ part) ++ splitOn '/' (part ++ (mark ++ rest)) := by
    rw [← Text.splitOn_append_cons, List.append_assoc, ← heq]
    exact (Text.splitOn_join hne fun t ht ↦ (hls t ht).slash_notMem).symm
  obtain ⟨x, hx⟩ := Text.exists_getLast?_splitOn_append hslash before
  obtain ⟨kept, hkept⟩ := List.getLast?_eq_some_iff.mp hx
  have hjoin : join "/" (kept ++ [x ++ part]) = before ++ part := by
    rw [← hkept]
    exact Text.join_splitOn '/' _
  refine ⟨kept, x ++ part, List.suffix_append x part, hjoin, ?_⟩
  have hbreak : '/' ∉ rest := by rcases Text.isAtEnd_iff.mp hrest with rfl | rfl <;> decide
  rcases hmark with rfl | rfl
  · left
    rw [hsplit, hkept, List.nil_append, Text.splitOn_eq_singleton]
    exact fun hmem ↦ (List.mem_append.mp hmem).elim hslash hbreak
  · have hafter : splitOn '/' (part ++ ("/" ++ rest)) = [part, rest] := by
      rw [show part ++ ("/".toList ++ rest) = part ++ '/' :: rest from rfl,
        Text.splitOn_append hslash, Text.splitOn_eq_singleton hbreak]
    rw [hafter, hkept] at hsplit
    rcases Text.isAtEnd_iff.mp hrest with rfl | rfl
    · exact absurd rfl (hls [] (by simp [hsplit])).ne_nil
    · right
      exact ⟨by rw [hsplit]; simp, rfl⟩

/-- A part that ends one segment and begins the next is repeated. -/
theorem repeats_join (hne : part ≠ []) (hslash : '/' ∉ part) (hmark : mark = [] ∨ mark = "/")
    (hrest : isAtEnd rest = true) (hafter : after ≠ [])
    (hjoin : join "/" after = part ++ (mark ++ rest)) (kept : List Text) (x : Text) :
    Repeats (join "/" (kept ++ [x])) part mark rest (join "/" (kept ++ [x ++ part] ++ after)) := by
  refine ⟨hne, hslash, hmark, hrest, ?_⟩
  rw [Text.join_append (by simp) hafter, Text.join_concat_append, hjoin, List.append_assoc]
  rfl

end ApiSite.Doc
