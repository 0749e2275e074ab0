import ApiSite.Sanitize
import ApiSite.Proofs.Text

/-!
# What the rules of cleaning see

A rule that applies to the beginning of a text applies to the whole text, and one that applies to a
text with backslashes before some of its braces applies to the text without them. Both are one
relation: `Shows t s` says that `s` is what is seen of `t` when backslashes are put before braces
and the end is cut off. No rule looks at a backslash, at a brace or for an end, so each that finds a
construct in `s` finds one in `t` (`IsStable`).

The steps that the rules are made of come first, each with what it leaves of the one text and of the
other; the rules are read off from them.
-/

set_option autoImplicit false

namespace ApiSite.Sanitize

variable {p : Char → Bool} {c x : Char} {a b r s t u : Text} {name word : Text}

/-- The two braces. -/
def isBrace (c : Char) : Bool := c == '\x7b' || c == '\x7d'

/-- A text is seen, from its start on, with backslashes before some of its braces, and perhaps not
to its end. -/
inductive Shows : Text → Text → Prop where
  | done (t : Text) : Shows t []
  | same (c : Char) {t s : Text} : Shows t s → Shows (c :: t) (c :: s)
  | escape {c : Char} {t s : Text} : isBrace c → Shows (c :: t) s → Shows (c :: t) ('\\' :: s)

theorem shows_of_prefix (h : s <+: t) : Shows t s := by
  induction s generalizing t with
  | nil => exact .done t
  | cons c s ih =>
    obtain ⟨rest, rfl⟩ := h
    exact .same c (ih (List.prefix_append s rest))

/-- A character that is no backslash is seen where it stands. -/
theorem Shows.of_cons (h : Shows t (c :: s)) (hc : c ≠ '\\') : ∃ u, t = c :: u ∧ Shows u s := by
  cases h with
  | same _ h => exact ⟨_, rfl, h⟩
  | escape => exact absurd rfl hc

theorem Shows.of_append (h : Shows t (a ++ s)) (ha : '\\' ∉ a) : ∃ u, t = a ++ u ∧ Shows u s := by
  induction a generalizing t with
  | nil => exact ⟨t, rfl, h⟩
  | cons c a ih =>
    obtain ⟨u, rfl, hu⟩ := h.of_cons (c := c) fun heq ↦ ha (heq ▸ List.mem_cons_self)
    obtain ⟨v, rfl, hv⟩ := ih hu (mt (List.mem_cons_of_mem _) ha)
    exact ⟨v, rfl, hv⟩

/-- What stands before a character that is seen. -/
theorem Shows.split (h : Shows t (a ++ x :: s)) (hx : x ≠ '\\') :
    ∃ b u, t = b ++ x :: u ∧ b ⊆ a ∧ Shows u s := by
  generalize hseen : a ++ x :: s = seen at h
  induction h generalizing a with
  | done => simp at hseen
  | @same c t seen h ih =>
    cases a with
    | nil =>
      obtain ⟨rfl, rfl⟩ := List.cons.inj hseen
      exact ⟨[], t, rfl, List.nil_subset _, h⟩
    | cons d a =>
      obtain ⟨rfl, hrest⟩ := List.cons.inj hseen
      obtain ⟨b, u, rfl, hb, hu⟩ := ih hrest
      exact ⟨d :: b, u, rfl, List.cons_subset_cons d hb, hu⟩
  | escape hc h ih =>
    cases a with
    | nil => exact absurd (List.cons.inj hseen).1 hx
    | cons d a =>
      obtain ⟨b, u, hsplit, hb, hu⟩ := ih (List.cons.inj hseen).2
      exact ⟨b, u, hsplit, List.Subset.trans hb (List.subset_cons_self d a), hu⟩

/-- A class of characters that holds both braces and the backslash, or none of them. -/
def TakesAlike (p : Char → Bool) : Prop := ∀ c, isBrace c → p c = p '\\'

theorem takesAlike_of (hopen : p '\x7b' = p '\\') (hclose : p '\x7d' = p '\\') : TakesAlike p := by
  intro c hc
  rw [isBrace, Bool.or_eq_true, beq_iff_eq, beq_iff_eq] at hc
  rcases hc with rfl | rfl
  · exact hopen
  · exact hclose

theorem Shows.head?_any (h : Shows t s) (hs : s ≠ []) (hp : TakesAlike p) :
    t.head?.any p = s.head?.any p := by
  cases h with
  | done => exact absurd rfl hs
  | same => rfl
  | escape hc => exact hp _ hc

theorem Shows.head?_any_of (h : Shows t s) (hp : TakesAlike p) (hs : s.head?.any p = true) :
    t.head?.any p = true := by
  rw [h.head?_any ?_ hp, hs]
  rintro rfl
  cases hs

theorem Shows.dropWhile (h : Shows t s) (hp : TakesAlike p) :
    Shows (t.dropWhile p) (s.dropWhile p) := by
  induction h with
  | done t => exact .done _
  | same c h ih =>
    by_cases hc : p c = true
    · rwa [List.dropWhile_cons_of_pos hc, List.dropWhile_cons_of_pos hc]
    · rw [List.dropWhile_cons_of_neg hc, List.dropWhile_cons_of_neg hc]
      exact .same c h
  | escape hc h ih =>
    by_cases hback : p '\\' = true
    · rwa [List.dropWhile_cons_of_pos hback]
    · rw [List.dropWhile_cons_of_neg hback, List.dropWhile_cons_of_neg (hp _ hc ▸ hback)]
      exact .escape hc h

theorem takesAlike_isBlank : TakesAlike Text.isBlank := takesAlike_of (by decide) (by decide)

theorem takesAlike_isWord : TakesAlike Text.isWord := takesAlike_of (by decide) (by decide)

theorem Shows.stripStart (h : Shows t s) : Shows (Text.stripStart t) (Text.stripStart s) :=
  h.dropWhile takesAlike_isBlank

/-! ### The steps of the rules -/

/-- Words whose letters are no backslash in any case. -/
abbrev IsName (word : Text) : Prop := word.all (fun w ↦ !Text.sameLetter w '\\') = true

theorem IsName.not_sameLetter {w : Char} (h : IsName word) (hw : w ∈ word) :
    Text.sameLetter w '\\' = false := by
  simpa using List.all_eq_true.mp h w hw

theorem Shows.afterWord? (h : Shows t s) (hword : IsName word)
    (hs : Text.afterWord? word s = some r) :
    ∃ u, Text.afterWord? word t = some u ∧ Shows u r := by
  induction word generalizing t s with
  | nil =>
    obtain rfl := Option.some.inj hs
    exact ⟨t, rfl, h⟩
  | cons w word ih =>
    cases s with
    | nil => cases hs
    | cons c s =>
      rw [Text.afterWord?] at hs
      split at hs
      · next hletter =>
        have hc : c ≠ '\\' := by
          rintro rfl
          rw [hword.not_sameLetter List.mem_cons_self] at hletter
          cases hletter
        obtain ⟨u, rfl, hu⟩ := h.of_cons hc
        have hrest : IsName word := (Bool.and_eq_true_iff.mp hword).2
        obtain ⟨v, hv, hshows⟩ := ih hu hrest hs
        refine ⟨v, ?_, hshows⟩
        rw [Text.afterWord?, if_pos hletter, hv]
      · cases hs

theorem Shows.afterSpaced? (h : Shows t s) (hc : c ≠ '\\') (hs : afterSpaced? c s = some r) :
    ∃ u, Sanitize.afterSpaced? c t = some u ∧ Shows u r := by
  unfold Sanitize.afterSpaced? at hs
  cases hstrip : Text.stripStart s with
  | nil =>
    rw [hstrip] at hs
    cases hs
  | cons d s =>
    rw [hstrip] at hs
    simp only at hs
    split at hs
    · next hd =>
      subst hd
      have hshows := h.stripStart
      rw [hstrip] at hshows
      obtain ⟨u, hu, hrest⟩ := hshows.of_cons hc
      refine ⟨Text.stripStart u, ?_, Option.some.inj hs ▸ hrest.stripStart⟩
      rw [Sanitize.afterSpaced?, hu]
      exact if_pos rfl
    · cases hs

/-! ### Tags and elements -/

/-- What follows the name where a tag of this name may begin. -/
def afterOpening? (name : Text) : Text → Option Text
  | '<' :: t => (Text.afterWord? name (Text.stripStart t)).filter fun r ↦ !r.head?.any Text.isWord
  | _ => none

theorem Shows.afterOpening? (h : Shows t s) (hname : IsName name)
    (hs : Sanitize.afterOpening? name s = some r) (hr : r ≠ []) :
    ∃ u, Sanitize.afterOpening? name t = some u ∧ Shows u r := by
  unfold Sanitize.afterOpening? at hs
  split at hs
  · next s =>
    obtain ⟨t, rfl, ht⟩ := h.of_cons (by decide)
    obtain ⟨hword, hhead⟩ := Option.filter_eq_some_iff.mp hs
    obtain ⟨u, hu, hshows⟩ := ht.stripStart.afterWord? hname hword
    refine ⟨u, Option.filter_eq_some_iff.mpr ⟨hu, ?_⟩, hshows⟩
    rw [hshows.head?_any hr takesAlike_isWord]
    exact hhead
  · cases hs

theorem tag?_eq_bind : tag? name t = (afterOpening? name t).bind fun r ↦
    match r.dropWhile (· != '>') with
    | _ :: rest => some (r.takeWhile (· != '>'), rest)
    | [] => none := by
  unfold tag? afterOpening?
  split
  · next t =>
    simp only [Option.bind_eq_bind]
    generalize Text.afterWord? name (Text.stripStart t) = found
    cases found with
    | none => rfl
    | some r =>
      rw [Option.bind_some, Option.filter_some]
      by_cases hhead : r.head?.any Text.isWord = true
      · rw [if_pos hhead, hhead]
        rfl
      · rw [if_neg hhead, Bool.eq_false_iff.mpr hhead]
        simp only [Text.drop_takeWhile]
        rfl
  · simp

/-- A tag is its opening, its inside and the bracket that closes it. -/
theorem tag?_eq_some_iff {inside rest : Text} : tag? name t = some (inside, rest) ↔
    afterOpening? name t = some (inside ++ '>' :: rest) ∧ '>' ∉ inside := by
  rw [tag?_eq_bind, Option.bind_eq_some_iff]
  constructor
  · rintro ⟨r, hr, hcut⟩
    by_cases hmem : '>' ∈ r
    · obtain ⟨a, b, rfl, ha⟩ := List.eq_append_cons_of_mem hmem
      rw [Text.dropWhile_append_stop ha, Text.takeWhile_append_stop ha] at hcut
      obtain ⟨rfl, rfl⟩ := Prod.mk.inj (Option.some.inj hcut)
      exact ⟨hr, ha⟩
    · rw [Text.dropWhile_ne_eq_nil_iff.mpr hmem] at hcut
      cases hcut
  · rintro ⟨hr, hinside⟩
    refine ⟨_, hr, ?_⟩
    rw [Text.dropWhile_append_stop hinside, Text.takeWhile_append_stop hinside]

/-- The inside of a tag ends with a slash and perhaps blanks. -/
def Closes (inside : Text) : Prop := ∃ a b, inside = a ++ '/' :: b ∧ ∀ c ∈ b, Text.isBlank c = true

theorem closes_iff {inside : Text} :
    (Text.stripEnd inside).getLast? = some '/' ↔ Closes inside := by
  rw [Text.stripEnd, Text.trimEnd, List.getLast?_reverse]
  constructor
  · intro hlast
    obtain ⟨rest, hrest⟩ := List.head?_eq_some_iff.mp hlast
    have hsplit := List.takeWhile_append_dropWhile (p := Text.isBlank) (l := inside.reverse)
    rw [hrest] at hsplit
    refine ⟨rest.reverse, (inside.reverse.takeWhile Text.isBlank).reverse, ?_, fun c hc ↦
      List.mem_takeWhile_imp (List.mem_reverse.mp hc)⟩
    calc inside = inside.reverse.reverse := (List.reverse_reverse _).symm
      _ = (inside.reverse.takeWhile Text.isBlank ++ '/' :: rest).reverse := by rw [hsplit]
      _ = _ := by simp
  · rintro ⟨a, b, rfl, hb⟩
    have hb' : ∀ c ∈ b.reverse, Text.isBlank c = true := fun c hc ↦ hb c (List.mem_reverse.mp hc)
    rw [List.reverse_append, List.reverse_cons, List.append_assoc,
      List.dropWhile_append_of_pos hb']
    rfl

theorem isSome_closedTag_iff : (closedTag name t).isSome ↔
    ∃ inside rest, tag? name t = some (inside, rest) ∧ Closes inside := by
  unfold closedTag
  cases htag : tag? name t with
  | none => simp
  | some found =>
    obtain ⟨inside, rest⟩ := found
    simp only [Option.some.injEq, Prod.mk.injEq, ← closes_iff]
    constructor
    · intro hsome
      split at hsome
      · next hlast => exact ⟨inside, rest, ⟨rfl, rfl⟩, beq_iff_eq.mp hlast⟩
      · cases hsome
    · rintro ⟨inside, rest, ⟨rfl, rfl⟩, hlast⟩
      rw [if_pos (beq_iff_eq.mpr hlast)]
      rfl

theorem Shows.tag? {inside rest : Text} (h : Shows t s) (hname : IsName name)
    (hs : Sanitize.tag? name s = some (inside, rest)) :
    ∃ inside' rest', Sanitize.tag? name t = some (inside', rest') ∧ Shows rest' rest ∧
      (Closes inside → Closes inside') := by
  obtain ⟨hopening, hinside⟩ := tag?_eq_some_iff.mp hs
  obtain ⟨r, hr, hshows⟩ := h.afterOpening? hname hopening (by simp)
  by_cases hcloses : Closes inside
  · obtain ⟨a, b, rfl, hb⟩ := hcloses
    have hback : '\\' ∉ b := fun hmem ↦ absurd (hb _ hmem) (by decide)
    rw [List.append_assoc, List.cons_append] at hshows
    obtain ⟨a', u, rfl, ha', hu⟩ := hshows.split (by decide)
    obtain ⟨v, rfl, hv⟩ := hu.of_append hback
    obtain ⟨rest', rfl, hrest⟩ := hv.of_cons (by decide)
    refine ⟨a' ++ '/' :: b, rest', tag?_eq_some_iff.mpr ⟨?_, ?_⟩, hrest, fun _ ↦ ⟨a', b, rfl, hb⟩⟩
    · rw [hr, List.append_assoc, List.cons_append]
    · intro hmem
      refine hinside ?_
      rw [List.mem_append] at hmem ⊢
      exact hmem.imp_left fun h ↦ ha' h
  · obtain ⟨inside', rest', rfl, hsubset, hrest⟩ := hshows.split (by decide)
    exact ⟨inside', rest', tag?_eq_some_iff.mpr ⟨hr, fun hmem ↦ hinside (hsubset hmem)⟩, hrest,
      fun h ↦ absurd h hcloses⟩

theorem Shows.afterEndTag? (h : Shows t s) (hname : IsName name)
    (hs : (Sanitize.afterEndTag? name s).isSome) : (Sanitize.afterEndTag? name t).isSome := by
  obtain ⟨rest, hs⟩ := Option.isSome_iff_exists.mp hs
  unfold Sanitize.afterEndTag? at hs
  split at hs
  · next s =>
    obtain ⟨t, rfl, ht⟩ := h.of_cons (by decide)
    obtain ⟨r, hslash, hs⟩ := Option.bind_eq_some_iff.mp hs
    obtain ⟨r', hword, hs⟩ := Option.bind_eq_some_iff.mp hs
    obtain ⟨u, hu, hshows⟩ := ht.afterSpaced? (by decide) hslash
    obtain ⟨v, hv, hshows⟩ := hshows.afterWord? hname hword
    split at hs
    · next rest' hstrip =>
      have hend := hshows.stripStart
      rw [hstrip] at hend
      obtain ⟨w, hw, -⟩ := hend.of_cons (by decide)
      simp [Sanitize.afterEndTag?, hu, hv, hw]
    · cases hs
  · cases hs

theorem Shows.afterContent? (h : Shows t s) (hname : IsName name)
    (hs : (Sanitize.afterContent? name s).isSome) : (Sanitize.afterContent? name t).isSome := by
  induction h with
  | done => cases hs
  | same c h ih =>
    rw [Sanitize.afterContent?, Option.isSome_or, Bool.or_eq_true] at hs ⊢
    exact hs.imp ((Shows.same c h).afterEndTag? hname) ih
  | escape hc h ih =>
    rw [Sanitize.afterContent?, Option.isSome_or, Bool.or_eq_true] at hs
    exact ih (hs.resolve_left (by simp [Sanitize.afterEndTag?]))

theorem isSome_element_iff : (element name t).isSome ↔
    ∃ inside rest, tag? name t = some (inside, rest) ∧ (afterContent? name rest).isSome := by
  rw [element, Option.isSome_map, afterElement?]
  cases tag? name t with
  | none => simp
  | some found =>
    obtain ⟨inside, rest⟩ := found
    simp

theorem isSome_soleTag_iff : (soleTag name t).isSome ↔ (tag? name t).isSome := by
  simp [soleTag]

/-! ### Attributes -/

/-- A value without the quotation mark that it may begin with. -/
def unquoted (t : Text) : Text :=
  match t with
  | q :: r => if isQuote q then Text.stripStart r else t
  | [] => t

theorem Shows.unquoted (h : Shows t s) : Shows (Sanitize.unquoted t) (Sanitize.unquoted s) := by
  cases h with
  | done => exact .done _
  | same c h =>
    simp only [Sanitize.unquoted]
    split
    · exact h.stripStart
    · exact .same c h
  | @escape c t s hc h =>
    have halike : TakesAlike isQuote := takesAlike_of (by decide) (by decide)
    have hquote : isQuote c = false := halike c hc
    simp only [Sanitize.unquoted, hquote]
    exact .escape hc h

theorem address_eq_bind {scheme : Text} {removal : Removal} : address scheme removal t =
    (addressName? t).bind fun found ↦ (afterSpaced? '=' found.2).bind fun value ↦
      (Text.afterWord? scheme (unquoted value)).bind fun rest ↦
        some ⟨t.length - rest.length, found.1 ++ "=\"", some removal⟩ :=
  rfl

theorem isSome_address_iff {scheme : Text} {removal : Removal} :
    (address scheme removal t).isSome ↔
      ∃ rest value, (Text.afterWord? "href" t).or (Text.afterWord? "src" t) = some rest ∧
        afterSpaced? '=' rest = some value ∧
          (Text.afterWord? scheme (unquoted value)).isSome := by
  rw [address_eq_bind, addressName?]
  constructor
  · intro h
    obtain ⟨edit, h⟩ := Option.isSome_iff_exists.mp h
    obtain ⟨found, hname, h⟩ := Option.bind_eq_some_iff.mp h
    obtain ⟨rest, hrest, rfl⟩ := Option.map_eq_some_iff.mp hname
    obtain ⟨value, hvalue, h⟩ := Option.bind_eq_some_iff.mp h
    obtain ⟨after, hafter, -⟩ := Option.bind_eq_some_iff.mp h
    exact ⟨rest, value, hrest, hvalue, Option.isSome_iff_exists.mpr ⟨after, hafter⟩⟩
  · rintro ⟨rest, value, hrest, hvalue, hafter⟩
    obtain ⟨after, hafter⟩ := Option.isSome_iff_exists.mp hafter
    rw [hrest, Option.map_some, Option.bind_some, hvalue, Option.bind_some, hafter]
    rfl

/-- What an attribute may have as the beginning of its value. -/
def startsValue (c : Char) : Bool := !(Text.isBlank c || c == '>')

theorem length_dropWhile_lt_iff : (t.dropWhile p).length < t.length ↔ t.head?.any p = true := by
  cases t with
  | nil => simp
  | cons c t =>
    by_cases hc : p c = true
    · rw [List.dropWhile_cons_of_pos hc]
      have := (List.dropWhile_suffix (l := t) p).length_le
      simpa [hc] using Nat.lt_succ_of_le this
    · rw [List.dropWhile_cons_of_neg hc]
      simp [hc]

theorem afterValue?_eq_or : afterValue? t = (afterQuoted? t).or
    (if (t.dropWhile startsValue).length < t.length then some (t.dropWhile startsValue)
    else none) :=
  rfl

theorem isSome_afterValue?_iff : (afterValue? t).isSome ↔ t.head?.any startsValue := by
  have hunquoted : (t.dropWhile startsValue).length < t.length ↔ t.head?.any startsValue :=
    length_dropWhile_lt_iff
  rw [afterValue?_eq_or, Option.isSome_or, Bool.or_eq_true, ← hunquoted]
  constructor
  · rintro (hquoted | hplain)
    · rw [hunquoted]
      unfold afterQuoted? at hquoted
      split at hquoted
      · next q t =>
        split at hquoted
        · next hq =>
          rw [isQuote, Bool.or_eq_true, beq_iff_eq, beq_iff_eq] at hq
          rcases hq with rfl | rfl <;> rfl
        · cases hquoted
      · cases hquoted
    · split at hplain
      · assumption
      · cases hplain
  · intro hplain
    refine Or.inr ?_
    rw [if_pos hplain]
    rfl

theorem isSome_eventHandler_iff : (eventHandler t).isSome ↔ t.head?.any Text.isBlank ∧
    ∃ name value, Text.afterWord? "on" (Text.stripStart t) = some name ∧
      name.head?.any Text.isWord ∧ afterSpaced? '=' (name.dropWhile Text.isWord) = some value ∧
        value.head?.any startsValue := by
  unfold eventHandler
  by_cases hblank : t.head?.any Text.isBlank = true
  · rw [if_pos hblank]
    constructor
    · intro h
      obtain ⟨edit, h⟩ := Option.isSome_iff_exists.mp h
      obtain ⟨name, hname, h⟩ := Option.bind_eq_some_iff.mp h
      simp only at h
      split at h
      · next hword =>
        obtain ⟨value, hvalue, h⟩ := Option.bind_eq_some_iff.mp h
        obtain ⟨after, hafter, -⟩ := Option.bind_eq_some_iff.mp h
        exact ⟨hblank, name, value, hname, length_dropWhile_lt_iff.mp hword, hvalue,
          isSome_afterValue?_iff.mp (Option.isSome_iff_exists.mpr ⟨after, hafter⟩)⟩
      · cases h
    · rintro ⟨-, name, value, hname, hword, hvalue, hstart⟩
      obtain ⟨after, hafter⟩ := Option.isSome_iff_exists.mp (isSome_afterValue?_iff.mpr hstart)
      have hlength := length_dropWhile_lt_iff.mpr hword
      simp only [Option.bind_eq_bind]
      rw [hname, Option.bind_some, if_pos hlength, hvalue, Option.bind_some, hafter]
      rfl
  · rw [if_neg hblank]
    constructor
    · intro h
      cases h
    · intro h
      exact absurd h.1 hblank

/-! ### Rules -/

/-- A rule finds nothing in an empty text, and nothing in what is seen of a text when it finds
nothing in the text itself. -/
structure IsStable (rule : Rule) : Prop where
  nil : rule [] = none
  isSome : ∀ ⦃t s : Text⦄, Shows t s → (rule s).isSome → (rule t).isSome

theorem isStable_element (hname : IsName name) : IsStable (element name) where
  nil := rfl
  isSome t s h hs := by
    obtain ⟨inside, rest, htag, hcontent⟩ := isSome_element_iff.mp hs
    obtain ⟨inside', rest', htag', hrest, -⟩ := h.tag? hname htag
    exact isSome_element_iff.mpr ⟨inside', rest', htag', hrest.afterContent? hname hcontent⟩

theorem isStable_closedTag (hname : IsName name) : IsStable (closedTag name) where
  nil := rfl
  isSome t s h hs := by
    obtain ⟨inside, rest, htag, hcloses⟩ := isSome_closedTag_iff.mp hs
    obtain ⟨inside', rest', htag', -, hcloses'⟩ := h.tag? hname htag
    exact isSome_closedTag_iff.mpr ⟨inside', rest', htag', hcloses' hcloses⟩

theorem isStable_soleTag (hname : IsName name) : IsStable (soleTag name) where
  nil := rfl
  isSome t s h hs := by
    obtain ⟨⟨inside, rest⟩, htag⟩ := Option.isSome_iff_exists.mp (isSome_soleTag_iff.mp hs)
    obtain ⟨inside', rest', htag', -⟩ := h.tag? hname htag
    exact isSome_soleTag_iff.mpr (Option.isSome_iff_exists.mpr ⟨_, htag'⟩)

theorem sameLetter_head?_of_afterWord? {w : Char} (h : (Text.afterWord? (w :: word) t).isSome) :
    t.head?.any (Text.sameLetter w) = true := by
  cases t with
  | nil => cases h
  | cons c t =>
    rw [Text.afterWord?] at h
    split at h
    · assumption
    · cases h

/-- The names of the two attributes that hold addresses differ in their first letter. -/
theorem not_sameLetter_head? (hfirst : t.head?.any (Text.sameLetter 'h') = true)
    (hsecond : t.head?.any (Text.sameLetter 's') = true) : False := by
  cases t with
  | nil => cases hfirst
  | cons c t =>
    have hlower : c.toLower = 'h' := by simpa [Text.sameLetter] using hfirst
    have hother : c.toLower = 's' ∨ c.toNat = 0x17f := by simpa [Text.sameLetter] using hsecond
    rw [hlower] at hother
    have hlong : c = 'ſ' := by
      rw [← Char.toNat_inj]
      exact hother.resolve_left (by decide)
    rw [hlong] at hlower
    exact absurd hlower (by decide)

theorem Shows.afterName? (h : Shows t s)
    (hs : (Text.afterWord? "href" s).or (Text.afterWord? "src" s) = some r) :
    ∃ u, (Text.afterWord? "href" t).or (Text.afterWord? "src" t) = some u ∧ Shows u r := by
  rcases Option.or_eq_some_iff.mp hs with hs | ⟨hnone, hs⟩
  · obtain ⟨u, hu, hshows⟩ := h.afterWord? (by decide) hs
    exact ⟨u, Option.or_eq_some_iff.mpr (Or.inl hu), hshows⟩
  · obtain ⟨u, hu, hshows⟩ := h.afterWord? (by decide) hs
    refine ⟨u, Option.or_eq_some_iff.mpr (Or.inr ⟨?_, hu⟩), hshows⟩
    rw [Option.eq_none_iff_forall_ne_some]
    intro other hother
    exact not_sameLetter_head? (sameLetter_head?_of_afterWord? (Option.isSome_of_eq_some hother))
      (sameLetter_head?_of_afterWord? (Option.isSome_of_eq_some hu))

theorem isStable_address {scheme : Text} {removal : Removal} (hscheme : IsName scheme) :
    IsStable (address scheme removal) where
  nil := rfl
  isSome t s h hs := by
    obtain ⟨rest, value, hname, hvalue, hafter⟩ := isSome_address_iff.mp hs
    obtain ⟨after, hafter⟩ := Option.isSome_iff_exists.mp hafter
    obtain ⟨rest', hname', hrest⟩ := h.afterName? hname
    obtain ⟨value', hvalue', hshows⟩ := hrest.afterSpaced? (by decide) hvalue
    obtain ⟨after', hafter', -⟩ := hshows.unquoted.afterWord? hscheme hafter
    exact isSome_address_iff.mpr
      ⟨rest', value', hname', hvalue', Option.isSome_iff_exists.mpr ⟨after', hafter'⟩⟩

theorem isStable_eventHandler : IsStable eventHandler where
  nil := rfl
  isSome t s h hs := by
    have hstart : TakesAlike startsValue := takesAlike_of (by decide) (by decide)
    obtain ⟨hblank, name, value, hname, hword, hvalue, hhead⟩ := isSome_eventHandler_iff.mp hs
    obtain ⟨name', hname', hshows⟩ := h.stripStart.afterWord? (by decide) hname
    obtain ⟨value', hvalue', hrest⟩ :=
      (hshows.dropWhile takesAlike_isWord).afterSpaced? (by decide) hvalue
    exact isSome_eventHandler_iff.mpr ⟨h.head?_any_of takesAlike_isBlank hblank, name', value',
      hname', hshows.head?_any_of takesAlike_isWord hword, hvalue', hrest.head?_any_of hstart hhead⟩

end ApiSite.Sanitize
