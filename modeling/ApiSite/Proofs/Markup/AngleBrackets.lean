import ApiSite.Proofs.Markup.TagParts

/-!
# Reading escaped angle brackets again

`tags` reads a text the way a page reads it: code spans are passed over, a bracket behind a
backslash is text, and every other complete tag is one. The main result, `names_of_mem_tags`, says
that in the escaped form of a text every tag has the name of a safe one, provided the text is
orderly: no backtick stands within type arguments, and a tag that escaping writes out as characters
holds no further bracket and no backtick.

The proviso cannot be dropped. What stands inside an escaped tag is copied, so a bracket there may
open a tag of its own (`unsafe_tag_within_tag`) and a backtick there may end a code span early.

The proof follows the escaping. Where it passes over a span or a safe tag, so does the reading;
where it writes an escaped tag or type arguments, the reading finds nothing; and a bracket that it
leaves alone opens no tag afterwards either, since the characters a name could go on with are copied
as they are (`tagName?_escapeFrom`). What ties the two together is that the one stands behind a
backslash whenever the other does.
-/

set_option autoImplicit false

namespace ApiSite.Markup.AngleBrackets

variable {safe : List Text} {mode : Mode} {previous before : Option Char} {c x : Char}
  {s t u : Text} {tag : Tag}

/-! ### Reading and order -/

/-- The complete tags of a text from a place on, given the character before it. The counter passes
over what is left of a code span or of a tag. -/
def tagsFrom : Nat → Option Char → Text → List Tag
  | _, _, [] => []
  | n + 1, _, c :: t => tagsFrom n (some c) t
  | 0, previous, c :: t =>
    if c = '\x60' then tagsFrom ((spanRest? t).getD 0) (some c) t
    else if c = '<' ∧ previous ≠ some '\\' then
      match tag? (c :: t) with
      | some tag => tag :: tagsFrom (tag.size - 1) (some c) t
      | none => tagsFrom 0 (some c) t
    else tagsFrom 0 (some c) t

/-- The complete tags of a text, from left to right, outside code spans and not behind a
backslash. -/
def tags (t : Text) : List Tag := tagsFrom 0 none t

/-- Characters that neither open a tag nor begin a code span. -/
def isInert (c : Char) : Bool := c != '<' && c != '\x60'

/-- Whether a text is orderly from a place on, in the mode in which escaping gets there: type
arguments hold no backtick, and a tag holds neither a bracket nor a backtick unless it is read as
one afterwards, being safe and not behind a backslash. -/
def isOrderlyFrom (safe : List Text) : Mode → Option Char → Text → Bool
  | _, _, [] => true
  | .copy (n + 1), _, c :: t => isOrderlyFrom safe (.copy n) (some c) t
  | .skip (n + 1), _, c :: t => isOrderlyFrom safe (.skip n) (some c) t
  | .arguments (depth + 1), _, c :: t =>
    c != '\x60' &&
      if c = '<' then isOrderlyFrom safe (.arguments (depth + 2)) (some c) t
      else if c = '>' then isOrderlyFrom safe (.arguments depth) (some c) t
      else isOrderlyFrom safe (.arguments (depth + 1)) (some c) t
  | _, previous, c :: t =>
    if c = '\x60' then
      match spanRest? t with
      | some n => isOrderlyFrom safe (.copy n) (some c) t
      | none => isOrderlyFrom safe .plain (some c) t
    else if c = '<' then
      if opensArguments previous t then isOrderlyFrom safe (.arguments 1) (some c) t
      else
        match tag? (c :: t) with
        | some tag =>
          (safe.contains (Text.lower tag.name) && previous != some '\\' || tag.rest.all isInert) &&
            isOrderlyFrom safe (.skip (tag.size - 1)) (some c) t
        | none => isOrderlyFrom safe .plain (some c) t
    else isOrderlyFrom safe .plain (some c) t

/-- Whether a text is orderly where tags with the given names are safe. -/
def isOrderly (safeTags : List Text) (t : Text) : Bool :=
  isOrderlyFrom (safeTags.map Text.lower) .plain none t

/-- The character before what follows a text. -/
def lastFrom : Option Char → Text → Option Char
  | previous, [] => previous
  | _, c :: t => lastFrom (some c) t

@[simp]
theorem lastFrom_concat : lastFrom previous (u ++ [c]) = some c := by
  induction u generalizing previous with
  | nil => rfl
  | cons d u ih => exact ih

/-- Nothing but what follows the name of a tag can hold a bracket or a backtick. -/
theorem isInert_of_mem_inside (h : tag? ('<' :: t) = some tag) (hrest : tag.rest.all isInert)
    (hc : c ∈ tag.inside) : isInert c = true := by
  obtain ⟨-, hname, -⟩ := tag?_eq_some_iff.mp h
  rw [inside_eq, List.mem_append, List.mem_append] at hc
  rcases hc with hc | hc | hc
  · split at hc
    · rw [List.mem_singleton.mp hc]
      decide
    · cases hc
  · rcases (of_tagName?_eq_some hname).2 c hc with hletter | rfl
    · unfold isInert
      rw [Bool.and_eq_true, bne_iff_ne, bne_iff_ne]
      constructor <;> rintro rfl <;> exact absurd hletter (by decide)
    · decide
  · exact List.all_eq_true.mp hrest c hc

/-! ### What is read -/

theorem tagsFrom_zero : tagsFrom 0 before (c :: t) =
    if c = '\x60' then tagsFrom ((spanRest? t).getD 0) (some c) t
    else if c = '<' ∧ before ≠ some '\\' then
      match tag? (c :: t) with
      | some tag => tag :: tagsFrom (tag.size - 1) (some c) t
      | none => tagsFrom 0 (some c) t
    else tagsFrom 0 (some c) t :=
  rfl

/-- Reading passes over a number of characters. -/
theorem tagsFrom_past :
    tagsFrom (u ++ [c]).length before (u ++ c :: t) = tagsFrom 0 (some c) t := by
  induction u generalizing before with
  | nil => rfl
  | cons d u ih => exact ih

theorem spanRest?_append (hu : '\x60' ∉ u) :
    spanRest? (u ++ '\x60' :: t) = some (u ++ ['\x60']).length := by
  rw [spanRest?, if_pos (by simp), Text.countStart, Text.takeWhile_append_stop hu]
  simp

theorem spanRest?_eq_none (ht : '\x60' ∉ t) : spanRest? t = none := by
  rw [spanRest?, if_neg (by simpa using ht)]

theorem tagsFrom_span (hu : '\x60' ∉ u) :
    tagsFrom 0 before ('\x60' :: (u ++ '\x60' :: t)) = tagsFrom 0 (some '\x60') t := by
  rw [tagsFrom_zero, if_pos rfl, spanRest?_append hu, Option.getD_some, tagsFrom_past]

theorem tagsFrom_backtick (ht : '\x60' ∉ t) :
    tagsFrom 0 before ('\x60' :: t) = tagsFrom 0 (some '\x60') t := by
  rw [tagsFrom_zero, if_pos rfl, spanRest?_eq_none ht, Option.getD_none]

theorem tagsFrom_cons (hc : isInert c = true) :
    tagsFrom 0 before (c :: t) = tagsFrom 0 (some c) t := by
  rw [isInert, Bool.and_eq_true, bne_iff_ne, bne_iff_ne] at hc
  rw [tagsFrom_zero, if_neg hc.2, if_neg (mt And.left hc.1)]

theorem tagsFrom_inert (hu : ∀ c ∈ u, isInert c = true) :
    tagsFrom 0 before (u ++ t) = tagsFrom 0 (lastFrom before u) t := by
  induction u generalizing before with
  | nil => rfl
  | cons c u ih =>
    rw [List.cons_append, tagsFrom_cons (hu c List.mem_cons_self),
      ih fun d hd ↦ hu d (List.mem_cons_of_mem _ hd), lastFrom]

/-- Behind a backslash a bracket is text. -/
theorem tagsFrom_escaped : tagsFrom 0 (some '\\') ('<' :: t) = tagsFrom 0 (some '<') t := by
  rw [tagsFrom_zero, if_neg (by decide), if_neg fun h ↦ h.2 rfl]

theorem tagsFrom_of_tag?_eq_none (h : tag? ('<' :: t) = none) :
    tagsFrom 0 before ('<' :: t) = tagsFrom 0 (some '<') t := by
  rw [tagsFrom_zero, if_neg (by decide), h]
  split <;> rfl

theorem tagsFrom_tag (h : tag? ('<' :: (tag.inside ++ '>' :: t)) = some tag)
    (hbefore : before ≠ some '\\') :
    tagsFrom 0 before ('<' :: (tag.inside ++ '>' :: t)) = tag :: tagsFrom 0 (some '>') t := by
  rw [tagsFrom_zero, if_neg (by decide), if_pos ⟨rfl, hbefore⟩, h]
  simp only
  rw [size_eq, tagsFrom_past]

/-! ### What is written -/

theorem escapeFrom_plain : escapeFrom safe .plain previous (c :: t) =
    if c = '\x60' then
      match spanRest? t with
      | some n => c :: escapeFrom safe (.copy n) (some c) t
      | none => c :: escapeFrom safe .plain (some c) t
    else if c = '<' then
      if opensArguments previous t then
        '\\' :: c :: escapeFrom safe (.arguments 1) (some c) t
      else
        match tag? (c :: t) with
        | some tag =>
          if safe.contains (Text.lower tag.name) then
            c :: escapeFrom safe (.copy (tag.size - 1)) (some c) t
          else
            "&lt;" ++ tag.inside ++ "&gt;" ++ escapeFrom safe (.skip (tag.size - 1)) (some c) t
        | none => c :: escapeFrom safe .plain (some c) t
    else c :: escapeFrom safe .plain (some c) t :=
  rfl

@[simp]
theorem escapeFrom_copy_zero :
    escapeFrom safe (.copy 0) previous t = escapeFrom safe .plain previous t := by
  cases t <;> rfl

@[simp]
theorem escapeFrom_skip_zero :
    escapeFrom safe (.skip 0) previous t = escapeFrom safe .plain previous t := by
  cases t <;> rfl

@[simp]
theorem escapeFrom_arguments_zero :
    escapeFrom safe (.arguments 0) previous t = escapeFrom safe .plain previous t := by
  cases t <;> rfl

theorem escapeFrom_copy : escapeFrom safe (.copy (u ++ [c]).length) previous (u ++ c :: t) =
    u ++ c :: escapeFrom safe .plain (some c) t := by
  induction u generalizing previous with
  | nil => exact congrArg (c :: ·) escapeFrom_copy_zero
  | cons d u ih => exact congrArg (d :: ·) ih

theorem escapeFrom_skip : escapeFrom safe (.skip (u ++ [c]).length) previous (u ++ c :: t) =
    escapeFrom safe .plain (some c) t := by
  induction u generalizing previous with
  | nil => exact escapeFrom_skip_zero
  | cons d u ih => exact ih

theorem escapeFrom_cons (hc : isInert c = true) :
    escapeFrom safe .plain previous (c :: t) = c :: escapeFrom safe .plain (some c) t := by
  rw [isInert, Bool.and_eq_true, bne_iff_ne, bne_iff_ne] at hc
  rw [escapeFrom_plain, if_neg hc.2, if_neg hc.1]

theorem escapeFrom_inert (hu : ∀ c ∈ u, isInert c = true) :
    escapeFrom safe .plain previous (u ++ t) =
      u ++ escapeFrom safe .plain (lastFrom previous u) t := by
  induction u generalizing previous with
  | nil => rfl
  | cons c u ih =>
    rw [List.cons_append, escapeFrom_cons (hu c List.mem_cons_self),
      ih fun d hd ↦ hu d (List.mem_cons_of_mem _ hd), lastFrom, List.cons_append]

theorem escapeFrom_span (hu : '\x60' ∉ u) :
    escapeFrom safe .plain previous ('\x60' :: (u ++ '\x60' :: t)) =
      '\x60' :: (u ++ '\x60' :: escapeFrom safe .plain (some '\x60') t) := by
  rw [escapeFrom_plain, if_pos rfl, spanRest?_append hu]
  simp only
  rw [escapeFrom_copy]

theorem escapeFrom_backtick (ht : '\x60' ∉ t) :
    escapeFrom safe .plain previous ('\x60' :: t) =
      '\x60' :: escapeFrom safe .plain (some '\x60') t := by
  rw [escapeFrom_plain, if_pos rfl, spanRest?_eq_none ht]

theorem escapeFrom_opening (h : opensArguments previous t = true) :
    escapeFrom safe .plain previous ('<' :: t) =
      '\\' :: '<' :: escapeFrom safe (.arguments 1) (some '<') t := by
  rw [escapeFrom_plain, if_neg (by decide), if_pos rfl, if_pos h]

theorem escapeFrom_lone (h : opensArguments previous t = false) (ht : tag? ('<' :: t) = none) :
    escapeFrom safe .plain previous ('<' :: t) = '<' :: escapeFrom safe .plain (some '<') t := by
  rw [escapeFrom_plain, if_neg (by decide), if_pos rfl, if_neg (by rw [h]; decide), ht]

/-- A tag, if it is safe, stays as it is; otherwise its brackets become references. -/
theorem escapeFrom_tag (h : opensArguments previous (tag.inside ++ '>' :: t) = false)
    (htag : tag? ('<' :: (tag.inside ++ '>' :: t)) = some tag) :
    escapeFrom safe .plain previous ('<' :: (tag.inside ++ '>' :: t)) =
      (if safe.contains (Text.lower tag.name) then '<' :: (tag.inside ++ ['>'])
        else "&lt;" ++ tag.inside ++ "&gt;") ++ escapeFrom safe .plain (some '>') t := by
  rw [escapeFrom_plain, if_neg (by decide), if_pos rfl, if_neg (by rw [h]; decide), htag]
  simp only
  rw [size_eq, escapeFrom_copy, escapeFrom_skip]
  split <;> simp

/-- Escaping adds references and backslashes only. -/
theorem mem_of_mem_escapeFrom (hadded : x ∉ ("\\&lt;&gt;" : Text))
    (hx : x ∈ escapeFrom safe mode previous t) : x ∈ t := by
  have hcons {c : Char} {s t : Text} (h : x ∈ s → x ∈ t) (hx : x ∈ c :: s) : x ∈ c :: t :=
    List.mem_cons.mpr ((List.mem_cons.mp hx).imp_right h)
  have hescaped {c : Char} {s t : Text} (h : x ∈ s → x ∈ t) (hx : x ∈ '\\' :: c :: s) :
      x ∈ c :: t := by
    refine hcons h ((List.mem_cons.mp hx).resolve_left ?_)
    rintro rfl
    exact hadded (by decide)
  fun_induction escapeFrom safe mode previous t with
  | case1 => exact hx
  | case2 _ _ _ _ ih => exact hcons ih hx
  | case3 _ _ _ _ ih => exact List.mem_cons_of_mem _ (ih hx)
  | case4 _ _ _ ih => exact hescaped ih hx
  | case5 _ _ _ _ ih => exact hescaped ih hx
  | case6 _ _ _ _ _ _ ih => exact hcons ih hx
  | case7 =>
    rename_i ih
    exact hcons ih hx
  | case8 =>
    rename_i ih
    exact hcons ih hx
  | case9 =>
    rename_i ih
    exact hescaped ih hx
  | case10 =>
    rename_i ih
    exact hcons ih hx
  | case11 =>
    rename_i htag ih
    rw [List.append_assoc, List.append_assoc] at hx
    rcases List.mem_append.mp hx with hx | hx
    · exact absurd (List.mem_cons_of_mem '\\' (List.mem_append_left "&gt;".toList hx)) hadded
    rcases List.mem_append.mp hx with hx | hx
    · obtain ⟨⟨s, ht⟩, -⟩ := tag?_eq_some_iff.mp htag
      rw [ht]
      exact List.mem_cons_of_mem _ (List.mem_append_left _ hx)
    rcases List.mem_append.mp hx with hx | hx
    · exact absurd (List.mem_cons_of_mem '\\' (List.mem_append_right "&lt;".toList hx)) hadded
    · exact List.mem_cons_of_mem _ (ih hx)
  | case12 =>
    rename_i ih
    exact hcons ih hx
  | case13 =>
    rename_i ih
    exact hcons ih hx

theorem eq_of_isInert_eq_false (hc : isInert c = false) : c = '<' ∨ c = '\x60' := by
  rw [isInert, Bool.and_eq_false_iff] at hc
  exact hc.imp bne_eq_false_iff_eq.mp bne_eq_false_iff_eq.mp

theorem isStop_of_not_isInert (hc : isInert c = false) : IsStop c := by
  rcases eq_of_isInert_eq_false hc with rfl | rfl <;>
    exact ⟨by decide, by decide, by decide, by decide⟩

/-- What is written for a bracket or a backtick begins with a character that ends names. -/
theorem exists_stop_of_not_isInert (safe : List Text) (previous : Option Char) (t : Text)
    (hc : isInert c = false) :
    ∃ d s, IsStop d ∧ escapeFrom safe .plain previous (c :: t) = d :: s := by
  have hstop := isStop_of_not_isInert hc
  have hbackslash : IsStop '\\' := ⟨by decide, by decide, by decide, by decide⟩
  have hreference : IsStop '&' := ⟨by decide, by decide, by decide, by decide⟩
  rcases eq_of_isInert_eq_false hc with rfl | rfl
  · cases hopens : opensArguments previous t with
    | true => exact ⟨_, _, hbackslash, escapeFrom_opening hopens⟩
    | false =>
      cases htag : tag? ('<' :: t) with
      | none => exact ⟨_, _, hstop, escapeFrom_lone hopens htag⟩
      | some tag =>
        obtain ⟨⟨s, rfl⟩, -⟩ := tag?_eq_some_iff.mp htag
        rw [escapeFrom_tag hopens htag]
        split
        · exact ⟨_, _, hstop, rfl⟩
        · exact ⟨_, _, hreference, rfl⟩
  · by_cases hspan : '\x60' ∈ t
    · obtain ⟨u, s, rfl, hu⟩ := List.eq_append_cons_of_mem hspan
      exact ⟨_, _, hstop, escapeFrom_span hu⟩
    · exact ⟨_, _, hstop, escapeFrom_backtick hspan⟩

/-- Escaping leaves the name of a tag that could begin here as it is. -/
theorem tagName?_escapeFrom :
    tagName? (body (escapeFrom safe .plain previous t)) = tagName? (body t) := by
  obtain ⟨u, rest, rfl, hu, hrest⟩ : ∃ u rest, t = u ++ rest ∧ (∀ c ∈ u, isInert c = true) ∧
      rest.head?.all (!isInert ·) :=
    ⟨_, _, List.takeWhile_append_dropWhile.symm, fun c hc ↦ List.mem_takeWhile_imp hc, by
      have h := List.head?_dropWhile_not isInert t
      cases hhead : (t.dropWhile isInert).head? with
      | none => rfl
      | some c =>
        rw [hhead] at h
        simpa using h⟩
  rw [escapeFrom_inert hu]
  cases rest with
  | nil => rfl
  | cons c s =>
    have hc : isInert c = false := by simpa using hrest
    obtain ⟨d, s', hstop, hwritten⟩ := exists_stop_of_not_isInert safe (lastFrom previous u) s hc
    rw [hwritten, body_append hstop, tagName?_append hstop,
      body_append (isStop_of_not_isInert hc), tagName?_append (isStop_of_not_isInert hc)]

theorem tag?_escapeFrom_eq_none (h : tag? ('<' :: t) = none) :
    tag? ('<' :: escapeFrom safe .plain previous t) = none := by
  rw [← Option.not_isSome_iff_eq_none, tag?_isSome_iff] at h ⊢
  rw [tagName?_escapeFrom]
  exact fun hsome ↦ h ⟨hsome.1, mem_of_mem_escapeFrom (by decide) hsome.2⟩

/-! ### What is orderly -/

theorem isOrderlyFrom_plain : isOrderlyFrom safe .plain previous (c :: t) =
    if c = '\x60' then
      match spanRest? t with
      | some n => isOrderlyFrom safe (.copy n) (some c) t
      | none => isOrderlyFrom safe .plain (some c) t
    else if c = '<' then
      if opensArguments previous t then isOrderlyFrom safe (.arguments 1) (some c) t
      else
        match tag? (c :: t) with
        | some tag =>
          (safe.contains (Text.lower tag.name) && previous != some '\\' || tag.rest.all isInert) &&
            isOrderlyFrom safe (.skip (tag.size - 1)) (some c) t
        | none => isOrderlyFrom safe .plain (some c) t
    else isOrderlyFrom safe .plain (some c) t :=
  rfl

@[simp]
theorem isOrderlyFrom_copy_zero :
    isOrderlyFrom safe (.copy 0) previous t = isOrderlyFrom safe .plain previous t := by
  cases t <;> rfl

@[simp]
theorem isOrderlyFrom_skip_zero :
    isOrderlyFrom safe (.skip 0) previous t = isOrderlyFrom safe .plain previous t := by
  cases t <;> rfl

@[simp]
theorem isOrderlyFrom_arguments_zero :
    isOrderlyFrom safe (.arguments 0) previous t = isOrderlyFrom safe .plain previous t := by
  cases t <;> rfl

theorem isOrderlyFrom_copy :
    isOrderlyFrom safe (.copy (u ++ [c]).length) previous (u ++ c :: t) =
      isOrderlyFrom safe .plain (some c) t := by
  induction u generalizing previous with
  | nil => exact isOrderlyFrom_copy_zero
  | cons d u ih => exact ih

theorem isOrderlyFrom_skip :
    isOrderlyFrom safe (.skip (u ++ [c]).length) previous (u ++ c :: t) =
      isOrderlyFrom safe .plain (some c) t := by
  induction u generalizing previous with
  | nil => exact isOrderlyFrom_skip_zero
  | cons d u ih => exact ih

theorem isOrderlyFrom_cons (hc : isInert c = true) :
    isOrderlyFrom safe .plain previous (c :: t) = isOrderlyFrom safe .plain (some c) t := by
  rw [isInert, Bool.and_eq_true, bne_iff_ne, bne_iff_ne] at hc
  rw [isOrderlyFrom_plain, if_neg hc.2, if_neg hc.1]

theorem isOrderlyFrom_span (hu : '\x60' ∉ u) :
    isOrderlyFrom safe .plain previous ('\x60' :: (u ++ '\x60' :: t)) =
      isOrderlyFrom safe .plain (some '\x60') t := by
  rw [isOrderlyFrom_plain, if_pos rfl, spanRest?_append hu]
  simp only
  rw [isOrderlyFrom_copy]

theorem isOrderlyFrom_backtick (ht : '\x60' ∉ t) :
    isOrderlyFrom safe .plain previous ('\x60' :: t) =
      isOrderlyFrom safe .plain (some '\x60') t := by
  rw [isOrderlyFrom_plain, if_pos rfl, spanRest?_eq_none ht]

theorem isOrderlyFrom_opening (h : opensArguments previous t = true) :
    isOrderlyFrom safe .plain previous ('<' :: t) =
      isOrderlyFrom safe (.arguments 1) (some '<') t := by
  rw [isOrderlyFrom_plain, if_neg (by decide), if_pos rfl, if_pos h]

theorem isOrderlyFrom_lone (h : opensArguments previous t = false) (ht : tag? ('<' :: t) = none) :
    isOrderlyFrom safe .plain previous ('<' :: t) =
      isOrderlyFrom safe .plain (some '<') t := by
  rw [isOrderlyFrom_plain, if_neg (by decide), if_pos rfl, if_neg (by rw [h]; decide), ht]

theorem isOrderlyFrom_tag (h : opensArguments previous (tag.inside ++ '>' :: t) = false)
    (htag : tag? ('<' :: (tag.inside ++ '>' :: t)) = some tag) :
    isOrderlyFrom safe .plain previous ('<' :: (tag.inside ++ '>' :: t)) =
      ((safe.contains (Text.lower tag.name) && previous != some '\\' || tag.rest.all isInert) &&
        isOrderlyFrom safe .plain (some '>') t) := by
  rw [isOrderlyFrom_plain, if_neg (by decide), if_pos rfl, if_neg (by rw [h]; decide), htag]
  simp only
  rw [size_eq, isOrderlyFrom_skip]

/-! ### Every tag is safe -/

/-- From here on, reading meets only tags with the given names. -/
def ReadsSafe (safe : List Text) (before : Option Char) (t : Text) : Prop :=
  ∀ tag ∈ tagsFrom 0 before t, Text.lower tag.name ∈ safe

/-- The modes in which reading and escaping are at the same place. -/
inductive Mode.IsScanning : Mode → Prop where
  | plain : Mode.IsScanning .plain
  | arguments (depth : Nat) : Mode.IsScanning (.arguments depth)

/-- What escaping writes for a text is safe wherever reading gets there behind a backslash just when
escaping does. -/
def EscapesSafely (safe : List Text) (t : Text) : Prop :=
  ∀ ⦃mode : Mode⦄ ⦃previous before : Option Char⦄, mode.IsScanning →
    (previous = some '\\' ↔ before = some '\\') → isOrderlyFrom safe mode previous t = true →
      ReadsSafe safe before (escapeFrom safe mode previous t)

theorem readsSafe_backtick (ih : ∀ s, s.length ≤ t.length → EscapesSafely safe s)
    (horder : isOrderlyFrom safe .plain previous ('\x60' :: t) = true) :
    ReadsSafe safe before (escapeFrom safe .plain previous ('\x60' :: t)) := by
  unfold ReadsSafe
  by_cases hspan : '\x60' ∈ t
  · obtain ⟨u, s, rfl, hu⟩ := List.eq_append_cons_of_mem hspan
    rw [isOrderlyFrom_span hu] at horder
    rw [escapeFrom_span hu, tagsFrom_span hu]
    exact ih s (by simp; omega) .plain Iff.rfl horder
  · rw [isOrderlyFrom_backtick hspan] at horder
    rw [escapeFrom_backtick hspan, tagsFrom_backtick (mt (mem_of_mem_escapeFrom (by decide)) hspan)]
    exact ih t le_rfl .plain Iff.rfl horder

theorem readsSafe_opening (ih : ∀ s, s.length ≤ t.length → EscapesSafely safe s)
    (hopens : opensArguments previous t = true)
    (horder : isOrderlyFrom safe .plain previous ('<' :: t) = true) :
    ReadsSafe safe before (escapeFrom safe .plain previous ('<' :: t)) := by
  unfold ReadsSafe
  rw [isOrderlyFrom_opening hopens] at horder
  rw [escapeFrom_opening hopens, tagsFrom_cons (by decide), tagsFrom_escaped]
  exact ih t le_rfl (.arguments 1) Iff.rfl horder

theorem readsSafe_lone (ih : ∀ s, s.length ≤ t.length → EscapesSafely safe s)
    (hopens : opensArguments previous t = false) (htag : tag? ('<' :: t) = none)
    (horder : isOrderlyFrom safe .plain previous ('<' :: t) = true) :
    ReadsSafe safe before (escapeFrom safe .plain previous ('<' :: t)) := by
  unfold ReadsSafe
  rw [isOrderlyFrom_lone hopens htag] at horder
  rw [escapeFrom_lone hopens htag, tagsFrom_of_tag?_eq_none (tag?_escapeFrom_eq_none htag)]
  exact ih t le_rfl .plain Iff.rfl horder

theorem readsSafe_tag (ih : EscapesSafely safe t)
    (hopens : opensArguments previous (tag.inside ++ '>' :: t) = false)
    (htag : tag? ('<' :: (tag.inside ++ '>' :: t)) = some tag)
    (hbackslash : previous = some '\\' ↔ before = some '\\')
    (horder : isOrderlyFrom safe .plain previous ('<' :: (tag.inside ++ '>' :: t)) = true) :
    ReadsSafe safe before (escapeFrom safe .plain previous ('<' :: (tag.inside ++ '>' :: t))) := by
  rw [isOrderlyFrom_tag hopens htag, Bool.and_eq_true, Bool.or_eq_true, Bool.and_eq_true,
    bne_iff_ne] at horder
  obtain ⟨htext, horder⟩ := horder
  have hrest {q : Char} (hq : q ≠ '\\') :
      ReadsSafe safe (some q) (escapeFrom safe .plain (some '>') t) :=
    ih .plain (by simp [hq]) horder
  have hinside (hall : tag.rest.all isInert) : ∀ c ∈ tag.inside, isInert c = true :=
    fun c hc ↦ isInert_of_mem_inside htag hall hc
  rw [escapeFrom_tag hopens htag]
  unfold ReadsSafe at hrest ⊢
  by_cases hsafe : safe.contains (Text.lower tag.name) = true
  · rw [if_pos hsafe, List.cons_append]
    by_cases hbefore : before = some '\\'
    · have hall := htext.resolve_left fun h ↦ h.2 (hbackslash.mpr hbefore)
      have hinert : ∀ c ∈ tag.inside ++ ['>'], isInert c = true := by
        rw [List.forall_mem_append]
        exact ⟨hinside hall, List.all_eq_true.mp rfl⟩
      rw [hbefore, tagsFrom_escaped, tagsFrom_inert hinert, lastFrom_concat]
      exact hrest (by decide)
    · have hread := tag?_eq_some_iff.mpr ⟨⟨escapeFrom safe .plain (some '>') t, rfl⟩,
        (tag?_eq_some_iff.mp htag).2⟩
      rw [List.append_assoc, List.singleton_append, tagsFrom_tag hread hbefore,
        List.forall_mem_cons]
      exact ⟨List.contains_iff_mem.mp hsafe, hrest (by decide)⟩
  · have hall := htext.resolve_left fun h ↦ hsafe h.1
    have hlast : "&lt;".toList ++ tag.inside ++ "&gt;".toList =
        "&lt;".toList ++ tag.inside ++ "&gt".toList ++ [';'] := by simp
    have hinert : ∀ c ∈ "&lt;".toList ++ tag.inside ++ "&gt".toList ++ [';'],
        isInert c = true := by
      rw [List.forall_mem_append, List.forall_mem_append, List.forall_mem_append]
      exact ⟨⟨⟨List.all_eq_true.mp rfl, hinside hall⟩, List.all_eq_true.mp rfl⟩,
        List.all_eq_true.mp rfl⟩
    rw [if_neg hsafe, hlast, tagsFrom_inert hinert, lastFrom_concat]
    exact hrest (by decide)

theorem readsSafe_arguments {depth : Nat} (ih : EscapesSafely safe t)
    (horder : isOrderlyFrom safe (.arguments (depth + 1)) previous (c :: t) = true) :
    ReadsSafe safe before (escapeFrom safe (.arguments (depth + 1)) previous (c :: t)) := by
  rw [isOrderlyFrom, Bool.and_eq_true, bne_iff_ne] at horder
  obtain ⟨hbacktick, horder⟩ := horder
  unfold ReadsSafe
  rw [escapeFrom]
  by_cases hopen : c = '<'
  · rw [if_pos hopen] at horder ⊢
    rw [hopen] at horder ⊢
    rw [tagsFrom_cons (by decide), tagsFrom_escaped]
    exact ih (.arguments (depth + 2)) Iff.rfl horder
  have hinert : isInert c = true := by simp [isInert, hopen, hbacktick]
  rw [if_neg hopen] at horder ⊢
  by_cases hclose : c = '>'
  · rw [if_pos hclose] at horder ⊢
    rw [tagsFrom_cons (by decide), tagsFrom_cons hinert]
    exact ih (.arguments depth) Iff.rfl horder
  · rw [if_neg hclose] at horder ⊢
    rw [tagsFrom_cons hinert]
    exact ih (.arguments (depth + 1)) Iff.rfl horder

theorem readsSafe_plain (ih : ∀ s, s.length ≤ t.length → EscapesSafely safe s)
    (hbackslash : previous = some '\\' ↔ before = some '\\')
    (horder : isOrderlyFrom safe .plain previous (c :: t) = true) :
    ReadsSafe safe before (escapeFrom safe .plain previous (c :: t)) := by
  by_cases hinert : isInert c = true
  · unfold ReadsSafe
    rw [isOrderlyFrom_cons hinert] at horder
    rw [escapeFrom_cons hinert, tagsFrom_cons hinert]
    exact ih t le_rfl .plain Iff.rfl horder
  rcases eq_of_isInert_eq_false (Bool.eq_false_iff.mpr hinert) with rfl | rfl
  · cases hopens : opensArguments previous t with
    | true => exact readsSafe_opening ih hopens horder
    | false =>
      cases htag : tag? ('<' :: t) with
      | none => exact readsSafe_lone ih hopens htag horder
      | some tag =>
        obtain ⟨⟨s, rfl⟩, -⟩ := tag?_eq_some_iff.mp htag
        exact readsSafe_tag (ih s (by simp; omega)) hopens htag hbackslash horder
  · exact readsSafe_backtick ih horder

theorem escapesSafely (safe : List Text) (t : Text) : EscapesSafely safe t := by
  induction hlength : t.length using Nat.strong_induction_on generalizing t with
  | _ n ih =>
    intro mode previous before hmode hbackslash horder
    cases t with
    | nil =>
      rw [escapeFrom]
      intro tag htag
      cases htag
    | cons c t =>
      have ih' : ∀ s, s.length ≤ t.length → EscapesSafely safe s := fun s hs ↦
        ih s.length (by rw [← hlength, List.length_cons]; omega) s rfl
      cases hmode with
      | plain => exact readsSafe_plain ih' hbackslash horder
      | arguments depth =>
        cases depth with
        | zero =>
          rw [isOrderlyFrom_arguments_zero] at horder
          rw [escapeFrom_arguments_zero]
          exact readsSafe_plain ih' hbackslash horder
        | succ depth => exact readsSafe_arguments (ih' t le_rfl) horder

/-- **Angle-bracket safety.** In the escaped form of an orderly text, every complete tag that is
read has the name of a safe one, in some letter case. -/
theorem names_of_mem_tags {safeTags : List Text} {t : Text}
    (horder : isOrderly safeTags t = true) :
    ∀ tag ∈ tags (escape safeTags t), Text.lower tag.name ∈ safeTags.map Text.lower :=
  escapesSafely _ t .plain Iff.rfl horder

/-- Code, type arguments within type arguments, tags that are safe and tags that are not, and a
bracket that is none of these: the two tags left are safe. -/
theorem names_of_mem_tags_mixture :
    let t : Text := "`<i>` Map<K, List<int>> a < b <B x=1>c</b> <video src=a>"
    isOrderly ["b"] t = true ∧
      escape ["b"] t =
        ("`<i>` Map\\<K, List\\<int\\>\\> a < b <B x=1>c</b> &lt;video src=a&gt;" : Text) ∧
      (tags (escape ["b"] t)).map Tag.name = [['B'], ['b']] ∧
      ∀ tag ∈ tags (escape ["b"] t), Text.lower tag.name ∈ [Text.lower "b"] := by
  refine ⟨by decide, by decide, by decide, names_of_mem_tags (by decide)⟩

/-- A bracket within a tag that is written out opens a tag that is not safe. -/
theorem unsafe_tag_within_tag :
    let t : Text := "<foo <script >>"
    isOrderly [] t = false ∧ escape [] t = ("&lt;foo <script &gt;>" : Text) ∧
      (tags (escape [] t)).map Tag.name = [("script" : Text)] := by
  decide

end ApiSite.Markup.AngleBrackets
