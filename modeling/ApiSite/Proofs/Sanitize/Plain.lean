import ApiSite.Sanitize
import ApiSite.Proofs.Text

/-!
# Texts that cleaning leaves alone

Markup needs an angle bracket, an attribute an equals sign, and a template a brace. Without these,
no rule of cleaning applies anywhere in a text (`rules_eq_none`), and the text is safe as it is
(`sanitize_eq_self`).
-/

set_option autoImplicit false

namespace ApiSite.Sanitize

variable {t : Text} {x : Char}

theorem mem_of_afterWord? {word rest : Text} (h : Text.afterWord? word t = some rest)
    (hx : x ∈ rest) : x ∈ t := by
  induction word generalizing t with
  | nil =>
    cases h
    exact hx
  | cons w word ih =>
    cases t with
    | nil => cases h
    | cons c t =>
      rw [Text.afterWord?] at h
      split at h
      · exact List.mem_cons_of_mem _ (ih h)
      · cases h

theorem tag?_eq_none {name : Text} (ht : '<' ∉ t) : tag? name t = none := by
  rw [tag?.eq_def]
  split
  · exact absurd List.mem_cons_self ht
  · rfl

theorem afterElement?_eq_none {name : Text} (ht : '<' ∉ t) : afterElement? name t = none := by
  rw [afterElement?, tag?_eq_none ht]
  rfl

theorem afterSpaced?_eq_none (ht : x ∉ t) : afterSpaced? x t = none := by
  rw [afterSpaced?]
  split
  · next d rest hstrip =>
    have hd : d ∈ t := (List.dropWhile_suffix _).subset (hstrip ▸ List.mem_cons_self)
    rw [if_neg]
    rintro rfl
    exact ht hd
  · rfl

theorem element_eq_none {name : Text} (ht : '<' ∉ t) : element name t = none := by
  rw [element, afterElement?_eq_none ht]
  rfl

theorem closedTag_eq_none {name : Text} (ht : '<' ∉ t) : closedTag name t = none := by
  rw [closedTag, tag?_eq_none ht]

theorem soleTag_eq_none {name : Text} (ht : '<' ∉ t) : soleTag name t = none := by
  rw [soleTag, tag?_eq_none ht]
  rfl

theorem frame_eq_none {hosts : List Text} (ht : '<' ∉ t) : frame hosts t = none := by
  rw [frame, afterElement?_eq_none ht]
  rfl

theorem address_eq_none {scheme : Text} {removal : Removal} (ht : '=' ∉ t) :
    address scheme removal t = none := by
  rw [address]
  cases hname : addressName? t with
  | none => rfl
  | some found =>
    obtain ⟨name, rest⟩ := found
    have hrest : '=' ∉ rest := by
      rw [addressName?, Option.map_eq_some_iff] at hname
      obtain ⟨after, hafter, heq⟩ := hname
      cases heq
      rcases Option.or_eq_some_iff.mp hafter with hafter | ⟨-, hafter⟩
      · exact fun hx ↦ ht (mem_of_afterWord? hafter hx)
      · exact fun hx ↦ ht (mem_of_afterWord? hafter hx)
    simp [afterSpaced?_eq_none hrest]

theorem eventHandler_eq_none (ht : '=' ∉ t) : eventHandler t = none := by
  rw [eventHandler]
  split
  · cases hname : Text.afterWord? "on" (Text.stripStart t) with
    | none => rfl
    | some name =>
      have hrest : '=' ∉ name.dropWhile Text.isWord := fun hx ↦
        ht ((List.dropWhile_suffix _).subset
          (mem_of_afterWord? hname ((List.dropWhile_suffix _).subset hx)))
      simp [afterSpaced?_eq_none hrest]
  · rfl

/-- Every rule needs an angle bracket or an equals sign. -/
theorem rules_eq_none {hosts : List Text} (hangle : '<' ∉ t) (hequals : '=' ∉ t) :
    ∀ rule ∈ rules hosts, rule t = none := by
  simp only [rules, List.forall_mem_append, List.forall_mem_cons, List.mem_flatMap,
    element_eq_none hangle, closedTag_eq_none hangle, soleTag_eq_none hangle,
    frame_eq_none hangle, address_eq_none hequals, eventHandler_eq_none hequals, true_and]
  refine ⟨⟨fun rule hrule ↦ absurd hrule List.not_mem_nil, ?_⟩,
    fun rule hrule ↦ absurd hrule List.not_mem_nil⟩
  rintro rule ⟨name, -, hrule⟩
  rcases List.mem_cons.mp hrule with rfl | hrule
  · exact element_eq_none hangle
  · rw [List.mem_singleton.mp hrule]
    exact closedTag_eq_none hangle

theorem applyRule_eq_self {rule : Rule} (hrule : ∀ s, s <:+ t → rule s = none) :
    applyRule rule t = (t, []) := by
  rw [applyRule]
  induction t with
  | nil => rfl
  | cons c t ih =>
    rw [applyFrom, hrule _ List.suffix_rfl]
    simp only
    rw [ih fun s hs ↦ hrule s (hs.trans (List.suffix_cons _ _))]

theorem applyRules_eq_self {rules : List Rule}
    (hrules : ∀ rule ∈ rules, ∀ s, s <:+ t → rule s = none) : applyRules rules t = (t, []) := by
  induction rules with
  | nil => rfl
  | cons rule rules ih =>
    rw [applyRules, applyRule_eq_self (hrules rule List.mem_cons_self)]
    simp only
    rw [ih fun rule hrule ↦ hrules rule (List.mem_cons_of_mem _ hrule)]
    rfl

/-- A text without the characters that markup, attributes and templates need is safe. -/
theorem sanitize_eq_self {hosts : List Text} (hangle : '<' ∉ t) (hequals : '=' ∉ t)
    (hopen : '\x7b' ∉ t) (hclose : '\x7d' ∉ t) (hnull : '\x00' ∉ t) :
    sanitize hosts t = (t, []) := by
  have hfilter : t.filter (· != '\x00') = t := by
    rw [List.filter_eq_self]
    intro c hc
    rw [bne_iff_ne]
    exact fun heq ↦ hnull (heq ▸ hc)
  have hclean : clean hosts t = (t, []) := by
    rw [clean, hfilter]
    exact applyRules_eq_self fun rule hrule s hs ↦
      rules_eq_none (fun hx ↦ hangle (hs.subset hx)) (fun hx ↦ hequals (hs.subset hx)) rule hrule
  have hbraces : escapeBraces t = t := by
    have hopening : Text.replace "\x7b\x7b" "\\\x7b\\\x7b" t = t :=
      Text.replace_eq_self (x := '\x7b') (by decide) hopen
    have hclosing : Text.replace "\x7d\x7d" "\\\x7d\\\x7d" t = t :=
      Text.replace_eq_self (x := '\x7d') (by decide) hclose
    rw [escapeBraces, hopening, hclosing]
  rw [sanitize, hclean]
  simp only [hbraces]

end ApiSite.Sanitize
