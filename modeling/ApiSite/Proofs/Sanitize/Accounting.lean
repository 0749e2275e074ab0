import ApiSite.Doc.Rendering
import ApiSite.Proofs.Sanitize.Edits

/-!
# What cleaning accounts for

A rule either keeps what it finds and accounts for nothing, or takes it out for something shorter
and accounts for one removal (`IsAccounting`). So one pass of a rule is a sequence of single
removals, from the front of the text to its end, and nothing else changes (`removesAll_applyRule`);
and cleaning is the sequence of those of its rules, one after the other (`removesAll_clean`). Each
removal shortens the text. From this follows what the count of removals says about a cleaned text:
it bounds how much of the text is gone, and is zero exactly if nothing is (`sanitize_accounting`).
-/

set_option autoImplicit false

namespace ApiSite.Sanitize

variable {name s t u scheme : Text} {e : Edit} {rule : Rule} {rs rs' : List Rule}
  {r removal : Removal} {removals others : List Removal} {hosts : List Text}

/-! ### Single removals -/

/-- A text loses a construct that one of the rules finds somewhere, and this is what is accounted
for. -/
def Removes (rs : List Rule) (r : Removal) (s t : Text) : Prop :=
  ∃ rule ∈ rs, ∃ front found e, s = front ++ found ∧ rule found = some e ∧ e.removal = some r ∧
    t = front ++ (e.replacement ++ found.drop e.size)

/-- A text loses one construct after the other, and nothing else. -/
inductive RemovesAll (rs : List Rule) : List Removal → Text → Text → Prop where
  | none (t : Text) : RemovesAll rs [] t t
  | cons {r : Removal} {removals : List Removal} {s t u : Text} (h : Removes rs r s t)
      (hrest : RemovesAll rs removals t u) : RemovesAll rs (r :: removals) s u

theorem Removes.mono (hrs : rs ⊆ rs') (h : Removes rs r s t) : Removes rs' r s t := by
  obtain ⟨rule, hrule, hfound⟩ := h
  exact ⟨rule, hrs hrule, hfound⟩

theorem RemovesAll.mono (hrs : rs ⊆ rs') (h : RemovesAll rs removals s t) :
    RemovesAll rs' removals s t := by
  induction h with
  | none t => exact .none t
  | cons h _ ih => exact .cons (h.mono hrs) ih

theorem RemovesAll.append (h : RemovesAll rs removals s t) (h' : RemovesAll rs others t u) :
    RemovesAll rs (removals ++ others) s u := by
  induction h with
  | none t => exact h'
  | cons h _ ih => exact .cons h (ih h')

/-! ### Rules that account for what they do -/

/-- What a rule takes out is longer than what it leaves in the place. -/
def IsShortening (rule : Rule) : Prop := ∀ ⦃t : Text⦄ ⦃e : Edit⦄, rule t = some e →
  e.removal.isSome → e.replacement.length < e.size ∧ e.size ≤ t.length

/-- A rule keeps what it does not account for, and shortens the text by what it does. -/
structure IsAccounting (rule : Rule) : Prop extends IsCleaning rule where
  shortening : IsShortening rule

theorem length_le_of_afterWord? {word rest : Text} (h : Text.afterWord? word t = some rest) :
    rest.length ≤ t.length :=
  (length_of_afterWord? h).symm ▸ Nat.le_add_left ..

theorem length_le_of_afterQuoted? {rest : Text} (h : afterQuoted? t = some rest) :
    rest.length ≤ t.length := by
  unfold afterQuoted? at h
  split at h
  · next q t =>
    have hdrop := (List.dropWhile_suffix (l := t) (· != q)).length_le
    split at h
    · split at h
      · next hfound =>
        obtain rfl := Option.some.inj h
        rw [hfound, List.length_cons] at hdrop
        exact (Nat.le_of_succ_le hdrop).trans (Nat.le_succ _)
      · cases h
    · cases h
  · cases h

theorem length_le_of_afterValue? {rest : Text} (h : afterValue? t = some rest) :
    rest.length ≤ t.length := by
  rw [afterValue?_eq_or] at h
  rcases Option.or_eq_some_iff.mp h with h | ⟨-, h⟩
  · exact length_le_of_afterQuoted? h
  · split at h
    · next hlength => exact Option.some.inj h ▸ hlength.le
    · cases h

theorem shortens_removing {rest : Text} (h : rest.length < t.length) :
    (removing removal t rest).replacement.length < (removing removal t rest).size ∧
      (removing removal t rest).size ≤ t.length :=
  ⟨Nat.sub_pos_of_lt h, Nat.sub_le ..⟩

theorem isShortening_element : IsShortening (element name) := by
  intro t e h _
  obtain ⟨rest, hrest, rfl⟩ := Option.map_eq_some_iff.mp h
  exact shortens_removing (length_lt_of_afterElement? hrest)

theorem isShortening_closedTag : IsShortening (closedTag name) := by
  intro t e h _
  unfold closedTag at h
  split at h
  · next inside rest htag =>
    split at h
    · obtain rfl := Option.some.inj h
      exact shortens_removing (length_lt_of_tag? htag)
    · cases h
  · cases h

theorem isShortening_soleTag : IsShortening (soleTag name) := by
  intro t e h _
  obtain ⟨found, htag, rfl⟩ := Option.map_eq_some_iff.mp h
  exact shortens_removing (length_lt_of_tag? htag)

theorem isShortening_frame : IsShortening (frame hosts) := by
  intro t e h hsome
  obtain ⟨rest, hrest, h⟩ := Option.bind_eq_some_iff.mp h
  simp only at h
  split at h
  · obtain rfl := Option.some.inj h
    exact ⟨Nat.sub_pos_of_lt (length_lt_of_afterElement? hrest), Nat.sub_le ..⟩
  · obtain rfl := Option.some.inj h
    cases hsome

/-- The scheme of an address is longer than the quotation mark that is left of it. -/
theorem isShortening_address (hscheme : 2 ≤ scheme.length) :
    IsShortening (address scheme removal) := by
  intro t e h _
  rw [address_eq_bind] at h
  obtain ⟨⟨name, rest⟩, hname, h⟩ := Option.bind_eq_some_iff.mp h
  obtain ⟨value, hvalue, h⟩ := Option.bind_eq_some_iff.mp h
  obtain ⟨after, hafter, h⟩ := Option.bind_eq_some_iff.mp h
  obtain rfl := Option.some.inj h
  obtain ⟨rest, hrest, heq⟩ := Option.map_eq_some_iff.mp hname
  obtain ⟨rfl, rfl⟩ := Prod.mk.inj heq
  have hafterName : rest.length ≤ t.length := by
    rcases Option.or_eq_some_iff.mp hrest with hword | ⟨-, hword⟩
    · exact length_le_of_afterWord? hword
    · exact length_le_of_afterWord? hword
  have hlength := length_of_afterWord? hafter
  have hunquoted := length_unquoted_le value
  have hspaced : value.length < rest.length := length_lt_of_afterSpaced? hvalue
  have hmark : ("=\"" : Text).length = 2 := rfl
  refine ⟨?_, Nat.sub_le ..⟩
  simp only [List.length_append, List.length_take, hmark]
  omega

theorem isShortening_eventHandler : IsShortening eventHandler := by
  intro t e h _
  unfold eventHandler at h
  split at h
  · obtain ⟨name, hon, h⟩ := Option.bind_eq_some_iff.mp h
    simp only at h
    split at h
    · next hword =>
      obtain ⟨value, hvalue, h⟩ := Option.bind_eq_some_iff.mp h
      obtain ⟨rest, hrest, h⟩ := Option.bind_eq_some_iff.mp h
      obtain rfl := Option.some.inj h
      have hstrip := length_stripStart_le t
      have hlength := length_of_afterWord? hon
      have hspaced := length_lt_of_afterSpaced? hvalue
      have hvalue := length_le_of_afterValue? hrest
      exact shortens_removing (by omega)
    · cases h
  · cases h

theorem isAccounting_of_mem_rules (h : rule ∈ rules hosts) : IsAccounting rule where
  toIsCleaning := isCleaning_of_mem_rules h
  shortening := by
    simp only [rules_eq_append, elementRules, attributeRules, List.mem_append, List.mem_cons,
      List.mem_flatMap, List.not_mem_nil, or_false] at h
    rcases h with (((rfl | rfl | rfl) | ⟨name, -, rfl | rfl⟩) | rfl | rfl | rfl) |
      rfl | rfl | rfl | rfl
    · exact isShortening_element
    · exact isShortening_closedTag
    · exact isShortening_element
    · exact isShortening_element
    · exact isShortening_closedTag
    · exact isShortening_soleTag
    · exact isShortening_soleTag
    · exact isShortening_soleTag
    · exact isShortening_frame
    · exact isShortening_address (by decide)
    · exact isShortening_address (by decide)
    · exact isShortening_eventHandler

/-! ### Passes -/

/-- A pass of a rule over what follows a text, when it has passed over some of that. -/
theorem removesAll_applyFrom (hrule : IsAccounting rule) (hmem : rule ∈ rs) (front : Text)
    (k : Nat) (t : Text) : RemovesAll rs (applyFrom rule k t).2 (front ++ t.drop k)
      (front ++ (applyFrom rule k t).1) := by
  induction t generalizing k front with
  | nil =>
    rw [applyFrom, List.drop_nil]
    exact .none _
  | cons c t ih =>
    cases k with
    | succ k => exact ih front k
    | zero =>
      rw [applyFrom, List.drop_zero]
      cases hedit : rule (c :: t) with
      | none =>
        have hrest := ih (front ++ [c]) 0
        rwa [List.append_assoc, List.append_assoc, List.drop_zero] at hrest
      | some e =>
        have hdrop (hsize : 0 < e.size) : (c :: t).drop e.size = t.drop (e.size - 1) :=
          List.drop_cons hsize
        have hrest := ih (front ++ e.replacement) (e.size - 1)
        rw [List.append_assoc, List.append_assoc] at hrest
        cases hremoval : e.removal with
        | none =>
          obtain ⟨hsize, hreplacement⟩ := hrule.kept hedit hremoval
          have htext : c :: t = e.replacement ++ t.drop (e.size - 1) := by
            rw [hreplacement, ← hdrop hsize, List.take_append_drop]
          simp only
          rw [htext, hremoval]
          exact hrest
        | some r =>
          have hshort := (hrule.shortening hedit (hremoval ▸ rfl)).1
          have htaken : Removes rs r (front ++ c :: t)
              (front ++ (e.replacement ++ t.drop (e.size - 1))) :=
            ⟨rule, hmem, front, c :: t, e, rfl, hedit, hremoval,
              by rw [hdrop (Nat.zero_lt_of_lt hshort)]⟩
          simp only
          rw [hremoval]
          exact .cons htaken hrest

theorem removesAll_applyRule (hrule : IsAccounting rule) (hmem : rule ∈ rs) (t : Text) :
    RemovesAll rs (applyRule rule t).2 t (applyRule rule t).1 :=
  removesAll_applyFrom hrule hmem [] 0 t

theorem removesAll_applyRules (h : ∀ rule ∈ rs, IsAccounting rule) (t : Text) :
    RemovesAll rs (applyRules rs t).2 t (applyRules rs t).1 := by
  induction rs generalizing t with
  | nil => exact .none t
  | cons rule rs ih =>
    rw [List.forall_mem_cons] at h
    rw [applyRules]
    exact (removesAll_applyRule h.1 List.mem_cons_self t).append
      ((ih h.2 _).mono (List.subset_cons_self rule rs))

theorem removesAll_clean (hosts : List Text) (t : Text) :
    RemovesAll (rules hosts) (clean hosts t).2 (t.filter (· != '\x00')) (clean hosts t).1 :=
  removesAll_applyRules (fun _ ↦ isAccounting_of_mem_rules) _

/-! ### The count -/

theorem Removes.length_lt (hrs : ∀ rule ∈ rs, IsAccounting rule) (h : Removes rs r s t) :
    t.length < s.length := by
  obtain ⟨rule, hrule, front, found, e, rfl, hedit, hremoval, rfl⟩ := h
  obtain ⟨hshort, hsize⟩ := (hrs rule hrule).shortening hedit (hremoval ▸ rfl)
  simp only [List.length_append, List.length_drop]
  omega

theorem RemovesAll.length_le (hrs : ∀ rule ∈ rs, IsAccounting rule)
    (h : RemovesAll rs removals s t) : t.length + removals.length ≤ s.length := by
  induction h with
  | none t => exact le_rfl
  | cons h _ ih =>
    have hlength := h.length_lt hrs
    rw [List.length_cons]
    omega

theorem RemovesAll.eq_iff (hrs : ∀ rule ∈ rs, IsAccounting rule)
    (h : RemovesAll rs removals s t) : t = s ↔ removals = [] := by
  constructor
  · rintro rfl
    have hlength := h.length_le hrs
    exact List.length_eq_zero_iff.mp (by omega)
  · rintro rfl
    cases h with
    | none t => rfl

/-- **What is removed is accounted for, once each.** Every text is made safe, whatever hosts are
allowed besides: it loses one construct after the other, each found by a rule and each followed by
the next, before the braces are escaped, and with every one of them the count goes up by one and a
warning is logged. Each makes the text shorter, so that nothing has been counted exactly if the
text is what it was, without its null characters. -/
theorem sanitize_accounting (hosts : List Text) (t : Text) (p : Doc.Progress) :
    ∃ cleaned removals, sanitize hosts t = (escapeBraces cleaned, removals) ∧
      RemovesAll (rules hosts) removals (t.filter (· != '\x00')) cleaned ∧
      (p.remove removals).removals = p.removals ++ removals ∧
      (p.remove removals).stats.removals =
        p.stats.removals + (removals.map Removal.message).length ∧
      cleaned.length + removals.length ≤ (t.filter (· != '\x00')).length ∧
      (cleaned = t.filter (· != '\x00') ↔ removals = []) := by
  have hrules : ∀ rule ∈ rules hosts, IsAccounting rule := fun _ ↦ isAccounting_of_mem_rules
  have hclean := removesAll_clean hosts t
  have hcount : (p.remove (clean hosts t).2).stats.removals =
      p.stats.removals + (clean hosts t).2.length := rfl
  have hsanitize : sanitize hosts t = (escapeBraces (clean hosts t).1, (clean hosts t).2) := by
    rw [sanitize]
  refine ⟨(clean hosts t).1, (clean hosts t).2, hsanitize, hclean, rfl, ?_,
    hclean.length_le hrules, hclean.eq_iff hrules⟩
  rw [hcount, List.length_map]

end ApiSite.Sanitize
