import ApiSite.Markup.AngleBrackets
import ApiSite.Proofs.Text

/-!
# The parts of a tag

A complete tag is its inside between two brackets: a slash, a name and the rest up to the first
closing bracket (`tag?_eq_some_iff`). What its name is depends on nothing behind a character that
ends names (`tagName?_append`), and whether there is a tag depends on whether there is a name and
whether a bracket follows (`tag?_isSome_iff`).
-/

set_option autoImplicit false

namespace ApiSite.Markup.AngleBrackets

variable {c x : Char} {s t u : Text} {tag : Tag}

/-! ### Names -/

/-- Characters that end a tag's name and are no word. -/
structure IsStop (c : Char) : Prop where
  not_alphanum : c.isAlphanum = false
  ne_hyphen : c ≠ '-'
  ne_slash : c ≠ '/'
  not_word : Text.isWord c = false

theorem nameSegments_isPrefix (t : Text) : nameSegments t <+: t := by
  fun_induction nameSegments t with
  | case1 => exact List.prefix_rfl
  | case2 c t hc ih => exact List.cons_prefix_cons.mpr ⟨rfl, ih⟩
  | case3 c t hc hhyphen ih => exact List.cons_prefix_cons.mpr ⟨rfl, ih⟩
  | case4 c t hc hhyphen => exact List.nil_prefix

theorem isAlphanum_or_hyphen_of_mem_nameSegments (hc : c ∈ nameSegments t) :
    c.isAlphanum ∨ c = '-' := by
  fun_induction nameSegments t with
  | case1 => cases hc
  | case2 d t hd ih =>
    rcases List.mem_cons.mp hc with rfl | hc
    · exact Or.inl hd
    · exact ih hc
  | case3 d t hd hhyphen ih =>
    rcases List.mem_cons.mp hc with rfl | hc
    · exact Or.inr hhyphen.1
    · exact ih hc
  | case4 d t hd hhyphen => cases hc

theorem nameSegments_append (hstop : IsStop c) : nameSegments (u ++ c :: s) = nameSegments u := by
  have hhead (v : Text) :
      (v ++ c :: s).head?.any Char.isAlphanum = v.head?.any Char.isAlphanum := by
    cases v with
    | nil => simp [hstop.not_alphanum]
    | cons d v => rfl
  induction u with
  | nil => simp [nameSegments, hstop.not_alphanum, hstop.ne_hyphen]
  | cons d u ih => rw [List.cons_append, nameSegments, nameSegments, ih, hhead u]

theorem dropSegment?_isPrefix {name shorter : Text} (h : dropSegment? name = some shorter) :
    shorter <+: name := by
  unfold dropSegment? at h
  split at h
  · rw [← Option.some.inj h, ← List.reverse_suffix, List.reverse_reverse]
    exact (List.drop_suffix _ _).trans (List.dropWhile_suffix _)
  · cases h

/-- What a name is, depends on nothing behind a character that ends names. -/
theorem tagName?_append (hstop : IsStop c) : tagName? (u ++ c :: s) = tagName? u := by
  cases u with
  | nil =>
    have halpha : c.isAlpha = false := by
      have h := hstop.not_alphanum
      rw [Char.isAlphanum, Bool.or_eq_false_iff] at h
      exact h.1
    simp [tagName?, halpha]
  | cons d u =>
    have hword (v : Text) :
        (v ++ c :: s).head?.any Text.isWord = v.head?.any Text.isWord := by
      cases v with
      | nil => simp [hstop.not_word]
      | cons d v => rfl
    have hle := (nameSegments_isPrefix (d :: u)).length_le
    simp only [tagName?, List.cons_append]
    rw [← List.cons_append, nameSegments_append hstop, List.drop_append_of_le_length hle, hword]

/-- A name stands in front and consists of letters, digits and hyphens. -/
theorem of_tagName?_eq_some {name : Text} (h : tagName? t = some name) :
    name <+: t ∧ ∀ c ∈ name, c.isAlphanum ∨ c = '-' := by
  have hmain : name <+: nameSegments t := by
    unfold tagName? at h
    split at h
    · split at h
      · simp only at h
        split at h
        · exact dropSegment?_isPrefix h
        · exact (Option.some.inj h) ▸ List.prefix_rfl
      · cases h
    · cases h
  exact ⟨hmain.trans (nameSegments_isPrefix t), fun c hc ↦
    isAlphanum_or_hyphen_of_mem_nameSegments (hmain.subset hc)⟩

theorem isAlpha_of_tagName?_eq_some {name : Text} (h : tagName? (c :: t) = some name) :
    c.isAlpha = true := by
  unfold tagName? at h
  simp only at h
  split at h
  · assumption
  · cases h

/-! ### Tags -/

/-- The text where the name of a tag begins, given what follows its bracket. -/
def body (inner : Text) : Text := if inner.head? == some '/' then inner.drop 1 else inner

theorem body_append (hstop : IsStop c) : body (u ++ c :: s) = body u ++ c :: s := by
  cases u with
  | nil => simp [body, hstop.ne_slash]
  | cons d u => by_cases hd : d = '/' <;> simp [body, hd]

theorem mem_body_iff (hx : x ≠ '/') : x ∈ body t ↔ x ∈ t := by
  cases t with
  | nil => rfl
  | cons d t => by_cases hd : d = '/' <;> simp [body, hd, hx]

/-- The bracket that ends a tag. -/
theorem isStop_gt : IsStop '>' := ⟨by decide, by decide, by decide, by decide⟩

theorem tag?_of_tagName?_eq_none (h : tagName? (body t) = none) : tag? ('<' :: t) = none := by
  simp only [tag?]
  rw [← body, h]

/-- A tag whose name is there is complete if a bracket ends it. -/
theorem tag?_of_tagName? {name rest : Text} (h : tagName? (body t) = some name)
    (hbody : name ++ rest = body t) : tag? ('<' :: t) = if '>' ∈ rest then
      some ⟨t.head? == some '/', name, rest.takeWhile (· != '>')⟩ else none := by
  have hempty : (rest.dropWhile (· != '>')).isEmpty ↔ '>' ∉ rest := by
    rw [List.isEmpty_iff, Text.dropWhile_ne_eq_nil_iff]
  simp only [tag?]
  rw [← body, h]
  simp only
  rw [← hbody, List.drop_left, ← List.drop_drop, List.drop_left, Text.drop_takeWhile]
  by_cases hmem : '>' ∈ rest
  · rw [if_pos hmem, if_neg (mt hempty.mp (not_not_intro hmem))]
  · rw [if_neg hmem, if_pos (hempty.mpr hmem)]

/-- Whether there is a tag depends on whether there is a name and whether a bracket follows. -/
theorem tag?_isSome_iff :
    (tag? ('<' :: t)).isSome ↔ (tagName? (body t)).isSome ∧ '>' ∈ t := by
  cases h : tagName? (body t) with
  | none => simp [tag?_of_tagName?_eq_none h]
  | some name =>
    obtain ⟨⟨rest, hbody⟩, hname⟩ := of_tagName?_eq_some h
    have hgt : '>' ∈ t ↔ '>' ∈ rest := by
      rw [← mem_body_iff (by decide), ← hbody, List.mem_append]
      exact or_iff_right fun hmem ↦ absurd (hname _ hmem) (by decide)
    by_cases hmem : '>' ∈ rest <;> simp [tag?_of_tagName? h hbody, hgt, hmem]

theorem inside_eq (tag : Tag) :
    tag.inside = (if tag.slash then ['/'] else []) ++ (tag.name ++ tag.rest) :=
  List.append_assoc ..

/-- A tag is its inside between two brackets, and what it is depends on nothing behind it. -/
theorem tag?_eq_some_iff : tag? ('<' :: t) = some tag ↔ (∃ s, t = tag.inside ++ '>' :: s) ∧
    tagName? (tag.name ++ tag.rest) = some tag.name ∧ '>' ∉ tag.rest := by
  constructor
  · intro h
    cases hname : tagName? (body t) with
    | none =>
      rw [tag?_of_tagName?_eq_none hname] at h
      cases h
    | some name =>
      obtain ⟨⟨rest, hbody⟩, -⟩ := of_tagName?_eq_some hname
      rw [tag?_of_tagName? hname hbody] at h
      split at h
      · next hmem =>
        obtain ⟨inner, s, rfl, hinner⟩ := List.eq_append_cons_of_mem hmem
        rw [Text.takeWhile_append_stop hinner] at h
        obtain rfl := Option.some.inj h
        rw [← hbody, ← List.append_assoc, tagName?_append isStop_gt] at hname
        refine ⟨⟨s, ?_⟩, hname, hinner⟩
        rw [inside_eq, List.append_assoc, List.append_assoc, hbody]
        cases t with
        | nil => rfl
        | cons d t => by_cases hd : d = '/' <;> simp [body, hd]
      · cases h
  · rintro ⟨⟨s, rfl⟩, hname, hrest⟩
    have hhead : (tag.name ++ tag.rest).head? ≠ some '/' := by
      cases hinner : tag.name ++ tag.rest with
      | nil => simp
      | cons d inner =>
        rw [hinner] at hname
        rintro ⟨⟩
        exact absurd (isAlpha_of_tagName?_eq_some hname) (by decide)
    have hinside : body tag.inside = tag.name ++ tag.rest ∧
        ((tag.inside ++ '>' :: s).head? == some '/') = tag.slash := by
      rw [inside_eq]
      cases tag.slash with
      | true => simp [body]
      | false => cases hinner : tag.name ++ tag.rest <;> simp_all [body]
    have hbody : tag.name ++ (tag.rest ++ '>' :: s) = body (tag.inside ++ '>' :: s) := by
      rw [body_append isStop_gt, hinside.1, List.append_assoc]
    rw [tag?_of_tagName? (by rw [← hbody, ← List.append_assoc, tagName?_append isStop_gt, hname])
      hbody, if_pos (by simp), Text.takeWhile_append_stop hrest, hinside.2]

theorem size_eq (tag : Tag) : tag.size - 1 = (tag.inside ++ ['>']).length := by
  rw [Tag.size, inside_eq]
  cases tag.slash <;> simp <;> omega

end ApiSite.Markup.AngleBrackets
