import ApiSite.Proofs.Sanitize.Plain
import ApiSite.Proofs.Sanitize.View

/-!
# What the rules of cleaning write

A rule removes what it finds, except that a frame from an allowed host stays as it is. In the place
of an address nothing is left but the name of its attribute and an opening quotation mark
(`IsOpening`), in which no rule finds anything (`IsOpening.isHarmless`, `isRemoval_of_mem`).
-/

set_option autoImplicit false

namespace ApiSite.Sanitize

variable {c : Char} {r rest s t u : Text} {name scheme word : Text} {e : Edit} {rule : Rule}
  {removal : Removal} {hosts : List Text}

/-! ### What is left of a text -/

theorem eq_append_of_afterWord? (h : Text.afterWord? word t = some rest) :
    ∃ letters, t = letters ++ rest ∧ Text.afterWord? word letters = some [] := by
  induction word generalizing t with
  | nil =>
    obtain rfl := Option.some.inj h
    exact ⟨[], rfl, rfl⟩
  | cons w word ih =>
    cases t with
    | nil => cases h
    | cons c t =>
      rw [Text.afterWord?] at h
      split at h
      · next hletter =>
        obtain ⟨letters, rfl, hletters⟩ := ih h
        exact ⟨c :: letters, rfl, by rw [Text.afterWord?, if_pos hletter, hletters]⟩
      · cases h

theorem length_of_afterWord? (h : Text.afterWord? word t = some rest) :
    t.length = word.length + rest.length := by
  induction word generalizing t with
  | nil =>
    obtain rfl := Option.some.inj h
    simp
  | cons w word ih =>
    cases t with
    | nil => cases h
    | cons c t =>
      rw [Text.afterWord?] at h
      split at h
      · rw [List.length_cons, List.length_cons, ih h]
        omega
      · cases h

theorem length_stripStart_le (t : Text) : (Text.stripStart t).length ≤ t.length :=
  (List.dropWhile_suffix _).length_le

theorem length_lt_of_afterSpaced? (h : afterSpaced? c t = some rest) :
    rest.length < t.length := by
  have hle := length_stripStart_le t
  unfold afterSpaced? at h
  split at h
  · next d r hstrip =>
    split at h
    · rw [hstrip, List.length_cons] at hle
      rw [← Option.some.inj h]
      have := length_stripStart_le r
      omega
    · cases h
  · cases h

theorem length_lt_of_tag? {inside : Text} (h : tag? name t = some (inside, rest)) :
    rest.length < t.length := by
  have hopening := (tag?_eq_some_iff.mp h).1
  unfold afterOpening? at hopening
  split at hopening
  · next t =>
    obtain ⟨hword, -⟩ := Option.filter_eq_some_iff.mp hopening
    have hlength := length_of_afterWord? hword
    have hle := length_stripStart_le t
    rw [List.length_append, List.length_cons] at hlength
    rw [List.length_cons]
    omega
  · cases hopening

theorem length_lt_of_afterEndTag? (h : afterEndTag? name t = some rest) :
    rest.length < t.length := by
  unfold afterEndTag? at h
  split at h
  · next t =>
    obtain ⟨r, hslash, h⟩ := Option.bind_eq_some_iff.mp h
    obtain ⟨s, hword, h⟩ := Option.bind_eq_some_iff.mp h
    have hr := length_lt_of_afterSpaced? hslash
    have hs := length_of_afterWord? hword
    have hle := length_stripStart_le s
    split at h
    · next after hstrip =>
      rw [hstrip, List.length_cons] at hle
      rw [← Option.some.inj h, List.length_cons]
      omega
    · cases h
  · cases h

theorem length_le_of_afterContent? (h : afterContent? name t = some rest) :
    rest.length ≤ t.length := by
  induction t with
  | nil => cases h
  | cons c t ih =>
    rw [afterContent?] at h
    rcases Option.or_eq_some_iff.mp h with h | ⟨-, h⟩
    · exact (length_lt_of_afterEndTag? h).le
    · exact (ih h).trans (Nat.le_succ _)

theorem length_lt_of_afterElement? (h : afterElement? name t = some rest) :
    rest.length < t.length := by
  obtain ⟨⟨inside, r⟩, htag, hcontent⟩ := Option.bind_eq_some_iff.mp h
  exact (length_le_of_afterContent? hcontent).trans_lt (length_lt_of_tag? htag)

/-! ### What is written -/

/-- The name of an attribute that holds an address, with the beginning of an empty value. -/
def IsOpening (t : Text) : Prop := ∃ letters, t = letters ++ "=\"" ∧
  (Text.afterWord? "href" letters = some [] ∨ Text.afterWord? "src" letters = some [])

/-- What a rule removes gives way to nothing or to the opening of an attribute, and what it does not
remove stays. -/
structure IsCleaning (rule : Rule) : Prop where
  opening : ∀ ⦃t : Text⦄ ⦃e : Edit⦄, rule t = some e → e.removal.isSome →
    e.replacement = [] ∨ IsOpening e.replacement
  kept : ∀ ⦃t : Text⦄ ⦃e : Edit⦄, rule t = some e → e.removal = none →
    0 < e.size ∧ e.replacement = t.take e.size

/-- A rule that removes whatever it finds. -/
def IsRemoving (rule : Rule) : Prop := ∀ ⦃t : Text⦄ ⦃e : Edit⦄, rule t = some e → e.removal.isSome

theorem IsRemoving.isCleaning (hremoving : IsRemoving rule)
    (hopening : ∀ ⦃t : Text⦄ ⦃e : Edit⦄, rule t = some e →
      e.replacement = [] ∨ IsOpening e.replacement) : IsCleaning rule where
  opening t e h _ := hopening h
  kept t e h hnone := by
    have := hremoving h
    rw [hnone] at this
    cases this

/-- A rule that removes without leaving anything in the place. -/
def IsDeleting (rule : Rule) : Prop := ∀ ⦃t : Text⦄ ⦃e : Edit⦄, rule t = some e →
  e.removal.isSome ∧ e.replacement = []

theorem IsDeleting.isRemoving (h : IsDeleting rule) : IsRemoving rule := fun _ _ hrule ↦
  (h hrule).1

theorem IsDeleting.isCleaning (h : IsDeleting rule) : IsCleaning rule :=
  h.isRemoving.isCleaning fun _ _ hrule ↦ Or.inl (h hrule).2

theorem isDeleting_element : IsDeleting (element name) := by
  intro t e h
  obtain ⟨rest, -, rfl⟩ := Option.map_eq_some_iff.mp h
  exact ⟨rfl, rfl⟩

theorem isDeleting_closedTag : IsDeleting (closedTag name) := by
  intro t e h
  unfold closedTag at h
  split at h
  · split at h
    · obtain rfl := Option.some.inj h
      exact ⟨rfl, rfl⟩
    · cases h
  · cases h

theorem isDeleting_soleTag : IsDeleting (soleTag name) := by
  intro t e h
  obtain ⟨found, -, rfl⟩ := Option.map_eq_some_iff.mp h
  exact ⟨rfl, rfl⟩

theorem isDeleting_eventHandler : IsDeleting eventHandler := by
  intro t e h
  unfold eventHandler at h
  split at h
  · obtain ⟨name, -, h⟩ := Option.bind_eq_some_iff.mp h
    simp only at h
    split at h
    · obtain ⟨value, -, h⟩ := Option.bind_eq_some_iff.mp h
      obtain ⟨rest, -, h⟩ := Option.bind_eq_some_iff.mp h
      obtain rfl := Option.some.inj h
      exact ⟨rfl, rfl⟩
    · cases h
  · cases h

/-- What an address is replaced by. -/
theorem of_address_eq_some (h : address scheme removal t = some e) :
    e.removal.isSome ∧ IsOpening e.replacement := by
  rw [address_eq_bind] at h
  obtain ⟨found, hname, h⟩ := Option.bind_eq_some_iff.mp h
  obtain ⟨value, -, h⟩ := Option.bind_eq_some_iff.mp h
  obtain ⟨after, -, h⟩ := Option.bind_eq_some_iff.mp h
  obtain rfl := Option.some.inj h
  refine ⟨rfl, found.1, rfl, ?_⟩
  obtain ⟨rest, hrest, rfl⟩ := Option.map_eq_some_iff.mp hname
  have hletters {word : Text} (hword : Text.afterWord? word t = some rest) :
      Text.afterWord? word (t.take (t.length - rest.length)) = some [] := by
    obtain ⟨letters, rfl, hletters⟩ := eq_append_of_afterWord? hword
    simpa using hletters
  rcases Option.or_eq_some_iff.mp hrest with hrest | ⟨-, hrest⟩
  · exact Or.inl (hletters hrest)
  · exact Or.inr (hletters hrest)

theorem isRemoving_address : IsRemoving (address scheme removal) := fun _ _ h ↦
  (of_address_eq_some h).1

theorem isCleaning_address : IsCleaning (address scheme removal) :=
  isRemoving_address.isCleaning fun _ _ h ↦ Or.inr (of_address_eq_some h).2

theorem isCleaning_frame : IsCleaning (frame hosts) := by
  have hedit {t : Text} {e : Edit} (h : frame hosts t = some e) : 0 < e.size ∧
      (e.replacement = [] ∨ e.removal = none ∧ e.replacement = t.take e.size) ∧
        (e.removal = none → e.replacement = t.take e.size) := by
    obtain ⟨rest, hrest, h⟩ := Option.bind_eq_some_iff.mp h
    have hlength := length_lt_of_afterElement? hrest
    simp only at h
    split at h
    · obtain rfl := Option.some.inj h
      exact ⟨by simp only; omega, Or.inl rfl, fun hnone ↦ by cases hnone⟩
    · obtain rfl := Option.some.inj h
      exact ⟨by simp only; omega, Or.inr ⟨rfl, rfl⟩, fun _ ↦ rfl⟩
  constructor
  · intro t e h hsome
    refine Or.inl ((hedit h).2.1.resolve_right ?_)
    rintro ⟨hnone, -⟩
    rw [hnone] at hsome
    cases hsome
  · intro t e h hnone
    exact ⟨(hedit h).1, (hedit h).2.2 hnone⟩

/-! ### Openings -/

theorem toLower_of_isBlank (h : Text.isBlank c = true) : c.toLower = c := by
  simp only [Text.isBlank, Bool.or_eq_true, Bool.and_eq_true, decide_eq_true_eq, beq_iff_eq] at h
  unfold Char.toLower
  rw [dif_neg]
  rintro ⟨hle, hge⟩
  have hle : 65 ≤ c.toNat := hle
  have hge : c.toNat ≤ 90 := hge
  omega

/-- What a letter of the two words may be written as. -/
theorem of_sameLetter {w : Char} (hw : w ∈ ['h', 'r', 'e', 'f', 's', 'r', 'c'])
    (h : Text.sameLetter w c = true) : Text.isBlank c = false ∧ c ≠ '<' := by
  have hcases : c.toLower = w ∨ c.toNat = 0x17f := by
    simp only [List.mem_cons, List.not_mem_nil, or_false] at hw
    rcases hw with rfl | rfl | rfl | rfl | rfl | rfl | rfl <;>
      simp_all [Text.sameLetter]
  rcases hcases with rfl | hlong
  · constructor
    · by_contra hblank
      rw [Bool.not_eq_false] at hblank
      rw [toLower_of_isBlank hblank] at hw
      have hnone : ['h', 'r', 'e', 'f', 's', 'r', 'c'].all (fun d ↦ !Text.isBlank d) = true := rfl
      have hletter := List.all_eq_true.mp hnone c hw
      rw [hblank] at hletter
      cases hletter
    · rintro rfl
      exact absurd hw (by decide)
  · obtain rfl : c = 'ſ' := Char.toNat_inj.mp hlong
    decide

/-- An opening is short and holds neither blanks nor angle brackets. -/
structure IsHarmless (t : Text) : Prop where
  length_le : t.length ≤ 6
  not_blank : ∀ c ∈ t, Text.isBlank c = false
  no_bracket : '<' ∉ t

theorem exists_sameLetter_of_mem {letters : Text} (h : Text.afterWord? word letters = some [])
    (hc : c ∈ letters) : ∃ w ∈ word, Text.sameLetter w c = true := by
  induction word generalizing letters with
  | nil =>
    obtain rfl := Option.some.inj h
    cases hc
  | cons w word ih =>
    cases letters with
    | nil => cases hc
    | cons d letters =>
      rw [Text.afterWord?] at h
      split at h
      · next hletter =>
        rcases List.mem_cons.mp hc with rfl | hc
        · exact ⟨w, List.mem_cons_self, hletter⟩
        · obtain ⟨v, hv, hletter⟩ := ih h hc
          exact ⟨v, List.mem_cons_of_mem _ hv, hletter⟩
      · cases h

theorem IsOpening.isHarmless (h : IsOpening t) : IsHarmless t := by
  obtain ⟨letters, rfl, hletters⟩ := h
  have hlength : letters.length ≤ 4 := by
    rcases hletters with hword | hword
    · exact (length_of_afterWord? hword).le
    · exact (length_of_afterWord? hword).le.trans (by decide)
  have hmem {c : Char} (hc : c ∈ letters) : Text.isBlank c = false ∧ c ≠ '<' := by
    rcases hletters with hword | hword
    · obtain ⟨w, hw, hletter⟩ := exists_sameLetter_of_mem hword hc
      exact of_sameLetter (List.mem_append_left "src".toList hw) hletter
    · obtain ⟨w, hw, hletter⟩ := exists_sameLetter_of_mem hword hc
      exact of_sameLetter (List.mem_append_right "href".toList hw) hletter
  refine ⟨?_, ?_, ?_⟩
  · rw [List.length_append]
    exact Nat.add_le_add_right hlength 2
  · rw [List.forall_mem_append]
    exact ⟨fun c hc ↦ (hmem hc).1,
      List.forall_mem_cons.mpr ⟨rfl, List.forall_mem_singleton.mpr rfl⟩⟩
  · rw [List.mem_append, not_or]
    exact ⟨fun hc ↦ (hmem hc).2 rfl, by decide⟩

theorem IsHarmless.of_infix (h : IsHarmless t) (hu : u <:+: t) : IsHarmless u where
  length_le := hu.length_le.trans h.length_le
  not_blank c hc := h.not_blank c (hu.subset hc)
  no_bracket := mt (hu.subset ·) h.no_bracket

theorem length_unquoted_le (t : Text) : (unquoted t).length ≤ t.length := by
  unfold unquoted
  split
  · split
    · exact (length_stripStart_le _).trans (Nat.le_succ _)
    · exact le_rfl
  · exact le_rfl

theorem length_of_isSome_address (h : (address scheme removal t).isSome) :
    4 + scheme.length ≤ t.length := by
  obtain ⟨rest, value, hname, hvalue, hafter⟩ := isSome_address_iff.mp h
  obtain ⟨after, hafter⟩ := Option.isSome_iff_exists.mp hafter
  have hrest : 3 + rest.length ≤ t.length := by
    rcases Option.or_eq_some_iff.mp hname with hword | ⟨-, hword⟩
    · have := length_of_afterWord? hword
      exact this ▸ Nat.add_le_add_right (by decide) _
    · exact (length_of_afterWord? hword).ge
  have hspaced := length_lt_of_afterSpaced? hvalue
  have hunquoted := length_unquoted_le value
  have hscheme := length_of_afterWord? hafter
  omega

/-! ### The rules that remove -/

/-- A rule for a kind of markup: it removes all that it finds, and finds nothing in an opening. -/
structure IsRemoval (rule : Rule) : Prop extends IsStable rule, IsCleaning rule where
  removing : IsRemoving rule
  harmless : ∀ ⦃t : Text⦄, IsHarmless t → rule t = none

/-- The rules that are applied before frames are looked at. -/
def elementRules : List Rule :=
  [element "script", closedTag "script", element "style"] ++
    embeddingTags.flatMap (fun name ↦ [element name, closedTag name]) ++
    [soleTag "base", soleTag "meta", soleTag "link"]

/-- The rules that are applied after frames have been looked at. -/
def attributeRules : List Rule :=
  [address "javascript:" .scriptAddress, address "data:" .dataAddress, eventHandler]

/-- The rules for the kinds of markup of which none is shown. -/
def removalRules : List Rule := elementRules ++ attributeRules

theorem rules_eq_append (hosts : List Text) :
    rules hosts = elementRules ++ frame (allowedHosts hosts) :: attributeRules :=
  List.append_assoc ..

theorem isRemoval_element (hname : IsName name) : IsRemoval (element name) where
  toIsStable := isStable_element hname
  toIsCleaning := isDeleting_element.isCleaning
  removing := isDeleting_element.isRemoving
  harmless _ h := element_eq_none h.no_bracket

theorem isRemoval_closedTag (hname : IsName name) : IsRemoval (closedTag name) where
  toIsStable := isStable_closedTag hname
  toIsCleaning := isDeleting_closedTag.isCleaning
  removing := isDeleting_closedTag.isRemoving
  harmless _ h := closedTag_eq_none h.no_bracket

theorem isRemoval_soleTag (hname : IsName name) : IsRemoval (soleTag name) where
  toIsStable := isStable_soleTag hname
  toIsCleaning := isDeleting_soleTag.isCleaning
  removing := isDeleting_soleTag.isRemoving
  harmless _ h := soleTag_eq_none h.no_bracket

theorem isRemoval_address (hscheme : IsName scheme) (hlength : 3 ≤ scheme.length) :
    IsRemoval (address scheme removal) where
  toIsStable := isStable_address hscheme
  toIsCleaning := isCleaning_address
  removing := isRemoving_address
  harmless t h := by
    rw [← Option.not_isSome_iff_eq_none]
    intro hsome
    have := length_of_isSome_address hsome
    have := h.length_le
    omega

theorem isRemoval_eventHandler : IsRemoval eventHandler where
  toIsStable := isStable_eventHandler
  toIsCleaning := isDeleting_eventHandler.isCleaning
  removing := isDeleting_eventHandler.isRemoving
  harmless t h := by
    rw [← Option.not_isSome_iff_eq_none, isSome_eventHandler_iff]
    rintro ⟨hblank, -⟩
    cases t with
    | nil => cases hblank
    | cons c t =>
      have hc := h.not_blank c List.mem_cons_self
      rw [List.head?_cons, Option.any_some, hc] at hblank
      cases hblank

theorem isRemoval_of_mem (h : rule ∈ removalRules) : IsRemoval rule := by
  have hnames : ∀ name ∈ embeddingTags, IsName name := by decide
  simp only [removalRules, elementRules, attributeRules, List.mem_append, List.mem_cons,
    List.mem_flatMap, List.not_mem_nil, or_false] at h
  rcases h with (((rfl | rfl | rfl) | ⟨name, hname, rfl | rfl⟩) | rfl | rfl | rfl) |
    rfl | rfl | rfl
  · exact isRemoval_element (by decide)
  · exact isRemoval_closedTag (by decide)
  · exact isRemoval_element (by decide)
  · exact isRemoval_element (hnames name hname)
  · exact isRemoval_closedTag (hnames name hname)
  · exact isRemoval_soleTag (by decide)
  · exact isRemoval_soleTag (by decide)
  · exact isRemoval_soleTag (by decide)
  · exact isRemoval_address (by decide) (by decide)
  · exact isRemoval_address (by decide) (by decide)
  · exact isRemoval_eventHandler

theorem isCleaning_of_mem_rules (h : rule ∈ rules hosts) : IsCleaning rule := by
  rw [rules_eq_append, List.mem_append, List.mem_cons] at h
  rcases h with h | rfl | h
  · exact (isRemoval_of_mem (List.mem_append_left _ h)).toIsCleaning
  · exact isCleaning_frame
  · exact (isRemoval_of_mem (List.mem_append_right _ h)).toIsCleaning

end ApiSite.Sanitize
