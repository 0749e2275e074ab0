import ApiSite.Proofs.Reference.Paths

/-!
# Paths that are taken for operators

A reference is read as an operator where the word for operators stands in front or behind an owner
and a dot, and a symbol follows it. For a path this means that one of its names begins with that
word, with plain names before it and no white space behind it (`operator?_path_eq_none_iff`). What
is read ends at this name, and with something else than the name (`ne_names_of_operator?`).
-/

set_option autoImplicit false

namespace ApiSite.Reference

open Text (isBlank splitOn)

/-- The symbol of an operator is not empty and holds no white space. -/
def IsSymbol (t : Text) : Prop := t ≠ [] ∧ ∀ c ∈ t, isBlank c = false

/-- Where a path with something behind it is taken for an operator: the parts before are plain, and
the rest is the word for operators and a symbol. -/
structure IsOperatorAt (before after : List Part) (tail symbol : Text) : Prop where
  isPlain : ∀ p ∈ before, p.arguments = []
  after_ne_nil : after ≠ []
  eq_append : path after ++ tail = "operator" ++ symbol
  isSymbol : IsSymbol symbol

/-- Whether a path with something behind it can be taken for an operator. -/
def MeansOperator (parts : List Part) (tail : Text) : Prop :=
  ∃ before after symbol, parts = before ++ after ∧ IsOperatorAt before after tail symbol

variable {t owner rest symbol tail : Text} {parts : List Part} {found : List Text} {n : Nat}

/-! ### Symbols -/

theorem symbol?_append (v : Text) : symbol? ("operator" ++ v) =
    if (dropLastBreak (Text.stripStart v)).isEmpty ||
      (dropLastBreak (Text.stripStart v)).any isBlank then none
    else some (dropLastBreak (Text.stripStart v)) := by
  rw [symbol?, Text.after?_append]
  rfl

theorem dropLastBreak_eq_self (hlast : ∀ c ∈ t.getLast?, isBlank c = false) :
    dropLastBreak t = t := by
  rw [dropLastBreak, Text.dropEnding, if_neg]
  rw [Text.endsWith, List.isSuffixOf_iff_suffix]
  rintro ⟨before, rfl⟩
  exact absurd (hlast '\n' List.getLast?_concat) (by decide)

theorem stripStart_eq_self (hhead : ∀ c ∈ t.head?, isBlank c = false) : Text.stripStart t = t := by
  cases t with
  | nil => rfl
  | cons c t => exact Text.trimStart_eq_self (hhead c rfl)

/-- Behind the word for operators, the symbol is all that follows, if this begins and ends with no
white space. -/
theorem symbol?_eq_some_iff (hbehind : ∀ v, t = "operator" ++ v → ∀ c ∈ v.head?, isBlank c = false)
    (hlast : ∀ c ∈ t.getLast?, isBlank c = false) :
    symbol? t = some symbol ↔ t = "operator" ++ symbol ∧ IsSymbol symbol := by
  cases hafter : Text.after? "operator" t with
  | none =>
    have hnone : symbol? t = none := by
      rw [symbol?, hafter]
      rfl
    rw [hnone]
    refine iff_of_false (Option.some_ne_none symbol).symm ?_
    rintro ⟨rfl, -⟩
    rw [Text.after?_append] at hafter
    cases hafter
  | some v =>
    obtain rfl := Text.eq_append_of_after? hafter
    have hend : ∀ c ∈ v.getLast?, isBlank c = false := fun c hc ↦
      hlast c (List.mem_getLast?_append_of_mem_getLast? hc)
    rw [symbol?_append, stripStart_eq_self (hbehind v rfl), dropLastBreak_eq_self hend,
      List.append_cancel_left_eq, IsSymbol]
    by_cases hne : v = []
    · subst hne
      simp +contextual
    by_cases hblank : v.any isBlank = true
    · rw [if_pos (by rw [hblank, Bool.or_true])]
      refine iff_of_false (Option.some_ne_none symbol).symm ?_
      rintro ⟨rfl, -, hall⟩
      obtain ⟨c, hc, hcb⟩ := List.any_eq_true.mp hblank
      rw [hall c hc] at hcb
      cases hcb
    · have hall : ∀ c ∈ v, isBlank c = false := by simpa using hblank
      rw [if_neg (by simpa [hne] using hall), Option.some.injEq]
      exact ⟨fun heq ↦ ⟨heq, heq ▸ ⟨hne, hall⟩⟩, And.left⟩

/-! ### Owners -/

/-- What the longest owner is that a symbol follows. -/
theorem of_ownedOperator?_eq_some (h : ownedOperator? t n = some (owner, symbol)) :
    ∃ rest, t = owner ++ '.' :: rest ∧ owner ≠ [] ∧ owner.length ≤ n ∧
      symbol? rest = some symbol := by
  induction n with
  | zero => cases h
  | succ n ih =>
    have hlater (h : ownedOperator? t n = some (owner, symbol)) : ∃ rest,
        t = owner ++ '.' :: rest ∧ owner ≠ [] ∧ owner.length ≤ n + 1 ∧
          symbol? rest = some symbol := by
      obtain ⟨rest, ht, hne, hlength, hsymbol⟩ := ih h
      exact ⟨rest, ht, hne, Nat.le_succ_of_le hlength, hsymbol⟩
    rw [ownedOperator?] at h
    split at h
    · next rest hdrop =>
      split at h
      · next found hfound =>
        obtain ⟨rfl, rfl⟩ := Prod.mk.inj (Option.some.inj h)
        have ht : t = t.take (n + 1) ++ '.' :: rest := by rw [← hdrop, List.take_append_drop]
        have hlength : t.length ≠ 0 := by
          rintro hnil
          rw [List.length_eq_zero_iff.mp hnil] at hdrop
          cases hdrop
        refine ⟨rest, ht, ?_, List.length_take_le _ _, hfound⟩
        simpa using hlength
      · exact hlater h
    · exact hlater h

theorem of_ownedOperator?_eq_none (h : ownedOperator? (owner ++ '.' :: rest) n = none)
    (hne : owner ≠ []) (hlength : owner.length ≤ n) : symbol? rest = none := by
  induction n with
  | zero => exact absurd (List.length_eq_zero_iff.mp (Nat.le_zero.mp hlength)) hne
  | succ n ih =>
    rw [ownedOperator?] at h
    rcases Nat.lt_or_eq_of_le hlength with hlt | heq
    · refine ih ?_ (Nat.le_of_lt_succ hlt)
      split at h
      · split at h
        · cases h
        · exact h
      · exact h
    · rw [← heq, List.drop_left] at h
      simp only at h
      split at h
      · cases h
      · next hnone => exact hnone

theorem length_le_takeWhile_iff {p : Char → Bool} :
    owner.length ≤ ((owner ++ rest).takeWhile p).length ↔ ∀ c ∈ owner, p c = true := by
  constructor
  · intro h c hc
    have hfront : owner <+: (owner ++ rest).takeWhile p :=
      List.prefix_of_prefix_length_le (List.prefix_append _ _) (List.takeWhile_prefix _) h
    exact List.mem_takeWhile_imp (hfront.subset hc)
  · intro h
    rw [List.takeWhile_append_of_pos h, List.length_append]
    exact Nat.le_add_right _ _

/-! ### Paths -/

theorem isNameChar_operator : ∀ c ∈ ("operator" : Text), isNameChar c = true :=
  List.all_eq_true.mp rfl

theorem symbol?_path_eq_some_iff (htail : IsTail tail) (hne : parts ≠ []) :
    symbol? (path parts ++ tail) = some symbol ↔
      path parts ++ tail = "operator" ++ symbol ∧ IsSymbol symbol := by
  obtain ⟨p, parts, rfl⟩ := List.exists_cons_of_ne_nil hne
  refine symbol?_eq_some_iff (fun v hv ↦ ?_) (isBlank_last_path htail)
  rw [path_append_eq] at hv
  exact isBlank_of_append_eq p.isNameChar (follows_of_isTail htail) isNameChar_operator hv

/-- A path is taken for an operator at one of the places where it can be. -/
theorem of_operator?_path_eq_some (htail : IsTail tail) (hne : parts ≠ [])
    (h : operator? (path parts ++ tail) = some found) :
    ∃ before after symbol, parts = before ++ after ∧ IsOperatorAt before after tail symbol ∧
      found = before.map Part.name ++ [symbol] := by
  rw [operator?] at h
  split at h
  · next owner symbol howned =>
    obtain ⟨rest, ht, hownerNe, hlength, hsymbol⟩ := of_ownedOperator?_eq_some howned
    rw [ht, length_le_takeWhile_iff] at hlength
    obtain ⟨before, after, hsplit, hbefore, hafter, hplain, rfl, rfl⟩ :=
      exists_split htail ht hownerNe hlength
    obtain ⟨heq, hsym⟩ := (symbol?_path_eq_some_iff htail hafter).mp hsymbol
    refine ⟨before, after, symbol, hsplit, ⟨hplain, hafter, heq, hsym⟩, ?_⟩
    have hnames : ∀ name ∈ before.map Part.name, '.' ∉ name ∧ name ≠ [] := by
      rintro name hname
      obtain ⟨p, -, rfl⟩ := List.mem_map.mp hname
      exact ⟨p.not_mem_name (by decide), p.name_ne_nil⟩
    have hpieces : splitOn '.' (path before) = before.map Part.name := by
      rw [path_of_isPlain hplain]
      exact Text.splitOn_join (by simpa using hbefore) fun name hname ↦ (hnames name hname).1
    rw [← Option.some.inj h, hpieces, List.filter_eq_self.mpr fun name hname ↦ ?_]
    simpa using (hnames name hname).2
  · obtain ⟨symbol, hsymbol, rfl⟩ := Option.map_eq_some_iff.mp h
    obtain ⟨heq, hsym⟩ := (symbol?_path_eq_some_iff htail hne).mp hsymbol
    exact ⟨[], parts, symbol, rfl, ⟨fun p hp ↦ absurd hp List.not_mem_nil, hne, heq, hsym⟩, rfl⟩

/-- **What is taken for an operator.** A path is no operator exactly where it can be taken for none:
the owner that counts is the longest one, but any other would do as well. -/
theorem operator?_path_eq_none_iff (htail : IsTail tail) (hne : parts ≠ []) :
    operator? (path parts ++ tail) = none ↔ ¬MeansOperator parts tail := by
  constructor
  · rintro hnone ⟨before, after, symbol, rfl, h⟩
    have hsymbol := (symbol?_path_eq_some_iff htail h.after_ne_nil).mpr ⟨h.eq_append, h.isSymbol⟩
    rw [operator?] at hnone
    split at hnone
    · cases hnone
    · next howned =>
      rw [Option.map_eq_none_iff] at hnone
      cases before with
      | nil =>
        rw [List.nil_append, hsymbol] at hnone
        cases hnone
      | cons p before =>
        have hbefore := List.cons_ne_nil p before
        rw [path_append hbefore h.after_ne_nil, List.append_assoc, List.cons_append] at howned
        have hlength : (path (p :: before)).length ≤ ((path (p :: before) ++
            '.' :: (path after ++ tail)).takeWhile isOwnerChar).length :=
          length_le_takeWhile_iff.mpr fun c hc ↦ isOwnerChar_of_mem_path h.isPlain hc
        have hpath : path (p :: before) ≠ [] := by
          rw [path_cons]
          simp [p.name_ne_nil]
        rw [of_ownedOperator?_eq_none howned hpath hlength] at hsymbol
        cases hsymbol
  · intro hmeans
    rw [Option.eq_none_iff_forall_ne_some]
    intro found hfound
    obtain ⟨before, after, symbol, hsplit, h, -⟩ := of_operator?_path_eq_some htail hne hfound
    exact hmeans ⟨before, after, symbol, hsplit, h⟩

/-- What is taken for an operator is not the path that was written. -/
theorem ne_names_of_operator? (htail : IsTail tail) (hne : parts ≠ [])
    (h : operator? (path parts ++ tail) = some found) : found ≠ parts.map Part.name := by
  obtain ⟨before, after, symbol, rfl, hat, rfl⟩ := of_operator?_path_eq_some htail hne h
  intro heq
  rw [List.map_append, List.append_cancel_left_eq] at heq
  obtain ⟨p, after, rfl⟩ := List.exists_cons_of_ne_nil hat.after_ne_nil
  obtain ⟨rfl, hnil⟩ := List.cons.inj heq
  obtain rfl := List.map_eq_nil_iff.mp hnil.symm
  -- all characters of the path are those of names, so nothing stands behind the name
  have hchars : ∀ c ∈ path [p] ++ tail, isNameChar c = true := by
    rw [hat.eq_append]
    intro c hc
    rcases List.mem_append.mp hc with hc | hc
    · exact isNameChar_operator c hc
    · exact p.isNameChar c hc
  have hnothing : p.arguments ++ (dotted [] ++ tail) = [] := by
    rw [List.eq_nil_iff_forall_not_mem]
    by_contra hsome
    obtain ⟨c, more, heq⟩ := List.exists_cons_of_ne_nil
      (fun hnil ↦ hsome (List.eq_nil_iff_forall_not_mem.mp hnil))
    have hfollows : Follows (p.arguments ++ (dotted [] ++ tail)) := follows_of_isTail htail
    have hc := (hfollows c (by rw [heq]; rfl)).1
    rw [hchars c (by rw [path_append_eq, heq]; simp)] at hc
    cases hc
  have hlength := congrArg List.length hat.eq_append
  rw [path_append_eq, hnothing, List.append_nil, List.length_append] at hlength
  have hword : List.length ("operator" : Text) = 8 := rfl
  omega

/-- A path without names that begin with the word for operators is no operator. -/
theorem not_meansOperator (htail : IsTail tail) (h : ∀ p ∈ parts, ¬"operator".toList <+: p.name) :
    ¬MeansOperator parts tail := by
  rintro ⟨before, after, symbol, rfl, hat⟩
  obtain ⟨p, after, rfl⟩ := List.exists_cons_of_ne_nil hat.after_ne_nil
  have hp := h p (by simp)
  have happend := hat.eq_append
  rw [path_append_eq] at happend
  rcases List.append_eq_append_iff.mp happend with ⟨more, hmore, hu⟩ | ⟨more, hmore, -⟩
  · cases more with
    | nil => exact hp ⟨[], by rw [List.append_nil]; exact hmore.trans (List.append_nil _)⟩
    | cons d more =>
      have hd := (follows_of_isTail htail d (by rw [hu]; rfl)).1
      rw [isNameChar_operator d (by rw [hmore]; simp)] at hd
      cases hd
  · exact hp ⟨more, hmore.symm⟩

end ApiSite.Reference
