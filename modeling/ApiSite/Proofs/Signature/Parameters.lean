import ApiSite.Proofs.Text
import ApiSite.Signature.Declaration
import Mathlib.Data.List.Forall2

/-!
# The parameters that a signature shows

The parameters of a signature stand on one line or on a line each. Either way they are read as a
list of tokens, in which white space counts for nothing, and neither does a comma before a closing
bracket (`Spells`). Positional parameters come first, then the optional ones in square brackets or
the named ones in curly ones, each kind in the order of the declaration.

Where there are only optional or only named ones besides the positional ones, both layouts spell the
same tokens, with each parameter in its place. Where there are both, one line has the optional ones
only and several lines have the named ones only, and no reading of the text has all parameters: each
brings at least one tag with it, so a text has too few tags for more parameters than it was written
for (`parameters_show_all_iff`).
-/

set_option autoImplicit false

namespace ApiSite.Signature

open Model

variable {site : Site} {s t : Text}

/-! ### Tokens -/

/-- What a list of parameters is made from. -/
inductive Token where
  | mark (c : Char)
  | parameter (p : Parameter)

/-- The marks of a list of parameters. -/
def marks : List Char := ['(', ')', '[', ']', '\x7b', '\x7d', ',']

/-- The marks that a comma may stand before. -/
def closingMarks : List Char := [')', ']', '\x7d']

theorem closingMarks_subset : closingMarks ⊆ marks := by decide

/-- A text spells tokens in their order, with white space between them. A comma before a closing
bracket divides nothing. -/
inductive Spells (site : Site) : List Token → Text → Prop where
  | nil : Spells site [] []
  | blank {c : Char} (hc : c ∈ [' ', '\n']) {l : List Token} {t : Text} (rest : Spells site l t) :
      Spells site l (c :: t)
  | comma {c : Char} (hc : c ∈ closingMarks) {l : List Token} {t : Text}
      (rest : Spells site (.mark c :: l) t) : Spells site (.mark c :: l) (',' :: t)
  | mark {c : Char} (hc : c ∈ marks) {l : List Token} {t : Text} (rest : Spells site l t) :
      Spells site (.mark c :: l) (c :: t)
  | parameter (p : Parameter) {l : List Token} {t : Text} (rest : Spells site l t) :
      Spells site (.parameter p :: l) (Signature.parameter site p ++ t)

/-- The parameters among tokens. -/
def parametersOf (l : List Token) : List Parameter :=
  l.filterMap fun
    | .mark _ => none
    | .parameter p => some p

variable {l m : List Token}

theorem parametersOf_append : parametersOf (l ++ m) = parametersOf l ++ parametersOf m :=
  List.filterMap_append

theorem Spells.append (hs : Spells site l s) (ht : Spells site m t) :
    Spells site (l ++ m) (s ++ t) := by
  induction hs with
  | nil => exact ht
  | blank hc _ ih => exact .blank hc ih
  | comma hc _ ih => exact .comma hc ih
  | mark hc _ ih => exact .mark hc ih
  | parameter p _ ih =>
    rw [List.append_assoc]
    exact .parameter p ih

theorem spells_mark {c : Char} (hc : c ∈ marks) : Spells site [.mark c] [c] := .mark hc .nil

theorem spells_parameter (p : Parameter) : Spells site [.parameter p] (parameter site p) := by
  have h : Spells site [.parameter p] (parameter site p ++ []) := .parameter p .nil
  rwa [List.append_nil] at h

/-! ### Lists of tokens -/

/-- Items with a comma between each two. -/
def listed : List (List Token) → List Token
  | [] => []
  | [item] => item
  | item :: rest => item ++ .mark ',' :: listed rest

theorem listed_cons (item : List Token) {rest : List (List Token)} (hrest : rest ≠ []) :
    listed (item :: rest) = item ++ .mark ',' :: listed rest := by
  cases rest with
  | nil => exact absurd rfl hrest
  | cons _ _ => rfl

theorem parametersOf_listed (items : List (List Token)) :
    parametersOf (listed items) = items.flatMap parametersOf := by
  induction items with
  | nil => rfl
  | cons item rest ih =>
    cases rest with
    | nil => exact (List.append_nil _).symm
    | cons _ _ =>
      rw [listed_cons item (List.cons_ne_nil _ _), parametersOf_append, List.flatMap_cons, ← ih]
      rfl

theorem spells_join {items : List (List Token)} {texts : List Text}
    (h : List.Forall₂ (Spells site) items texts) :
    Spells site (listed items) (Text.join ", " texts) := by
  induction h with
  | nil => exact .nil
  | cons hs hrest ih =>
    cases hrest with
    | nil => exact hs
    | cons ht hrest =>
      exact hs.append (.mark (by decide) (.blank (by decide) ih))

/-- Each parameter on its own. -/
def each (ps : List Parameter) : List (List Token) := ps.map fun p ↦ [.parameter p]

theorem each_append (ps qs : List Parameter) : each (ps ++ qs) = each ps ++ each qs :=
  List.map_append

theorem spells_each (ps : List Parameter) :
    List.Forall₂ (Spells site) (each ps) (ps.map (parameter site)) := by
  unfold each
  rw [List.forall₂_map_left_iff, List.forall₂_map_right_iff, List.forall₂_same]
  exact fun p _ ↦ spells_parameter p

theorem parametersOf_each (ps : List Parameter) : (each ps).flatMap parametersOf = ps := by
  induction ps with
  | nil => rfl
  | cons p ps ih => exact congrArg (p :: ·) ih

/-- Parameters in brackets, where there are any. -/
def grouped (brackets : Char × Char) (ps : List Parameter) : List (List Token) :=
  if ps.isEmpty then [] else [.mark brackets.1 :: listed (each ps) ++ [.mark brackets.2]]

theorem parametersOf_grouped (brackets : Char × Char) (ps : List Parameter) :
    (grouped brackets ps).flatMap parametersOf = ps := by
  unfold grouped
  split
  · next h => exact (List.isEmpty_iff.mp h).symm
  · have h : parametersOf (listed (each ps) ++ [.mark brackets.2]) = ps := by
      rw [parametersOf_append, parametersOf_listed, parametersOf_each]
      exact List.append_nil ps
    exact (List.append_nil _).trans h

/-! ### Kinds -/

/-- Parameters by their kinds. -/
structure Kinds where
  positional : List Parameter
  optional : List Parameter
  named : List Parameter

namespace Kinds

/-- The parameters of each kind, in the order of the declaration. -/
def of (ps : List Parameter) : Kinds :=
  let ofKind (kind : ParameterKind) : List Parameter := ps.filter fun p ↦ p.kind == kind
  ⟨ofKind .positional, ofKind .optional, ofKind .named⟩

def all (k : Kinds) : List Parameter := k.positional ++ (k.optional ++ k.named)

/-- The kinds of parameters divide them. -/
theorem all_perm (ps : List Parameter) : (of ps).all.Perm ps := by
  induction ps with
  | nil => exact .nil
  | cons p ps ih =>
    refine List.Perm.trans ?_ (ih.cons p)
    unfold all of
    cases hkind : p.kind with
    | positional => simp [hkind]
    | optional => simp [hkind]
    | named => simpa [hkind] using (List.Perm.append_left _ List.perm_middle).trans List.perm_middle

/-- A list of parameters with brackets around those that are not positional. -/
def tokens (k : Kinds) : List Token :=
  .mark '(' :: listed (each k.positional ++
    (grouped optionalBrackets k.optional ++ grouped namedBrackets k.named)) ++ [.mark ')']

theorem parametersOf_tokens (k : Kinds) : parametersOf k.tokens = k.all := by
  have h : parametersOf k.tokens = parametersOf (listed (each k.positional ++
      (grouped optionalBrackets k.optional ++ grouped namedBrackets k.named))) ++ [] :=
    parametersOf_append
  rw [h, List.append_nil, parametersOf_listed, List.flatMap_append, List.flatMap_append,
    parametersOf_each, parametersOf_grouped, parametersOf_grouped]
  rfl

/-- What one line has: named parameters only where there are no optional ones. -/
def onLine (k : Kinds) : Kinds := if k.optional.isEmpty then k else { k with named := [] }

/-- What several lines have: optional parameters only where there are no named ones. -/
def onLines (k : Kinds) : Kinds := if k.named.isEmpty then k else { k with optional := [] }

/-- The texts of parameters by their kinds. -/
def texts (site : Site) (k : Kinds) : ParameterGroups :=
  ⟨k.positional.map (parameter site), k.optional.map (parameter site),
    k.named.map (parameter site)⟩

end Kinds

/-! ### One line -/

/-- An opening bracket, and one that closes it. -/
def AreBrackets (brackets : Char × Char) : Prop :=
  brackets.1 ∈ marks ∧ brackets.2 ∈ closingMarks

theorem areBrackets_optional : AreBrackets optionalBrackets := ⟨by decide, by decide⟩

theorem areBrackets_named : AreBrackets namedBrackets := ⟨by decide, by decide⟩

theorem spells_parentheses (h : Spells site l t) :
    Spells site (.mark '(' :: l ++ [.mark ')']) ('(' :: t ++ [')']) :=
  .mark (by decide) (h.append (spells_mark (by decide)))

theorem spells_brackets {brackets : Char × Char} (hbrackets : AreBrackets brackets)
    (ps : List Parameter) :
    Spells site (.mark brackets.1 :: listed (each ps) ++ [.mark brackets.2])
      (brackets.1 :: Text.join ", " (ps.map (parameter site)) ++ [brackets.2]) :=
  .mark hbrackets.1 ((spells_join (spells_each ps)).append
    (spells_mark (closingMarks_subset hbrackets.2)))

theorem spells_wideParameters (k : Kinds) :
    Spells site k.onLine.tokens (wideParameters (k.texts site)) := by
  have hwide {items : List (List Token)} {texts : List Text}
      (h : List.Forall₂ (Spells site) items texts) :=
    spells_parentheses (spells_join (List.rel_append (spells_each k.positional) h))
  obtain ⟨positional, optional, named⟩ := k
  cases optional with
  | cons p ps => exact hwide (.cons (spells_brackets areBrackets_optional (p :: ps)) .nil)
  | nil =>
    cases named with
    | nil => exact hwide .nil
    | cons p ps => exact hwide (.cons (spells_brackets areBrackets_named (p :: ps)) .nil)

/-! ### Several lines -/

theorem parameterLines_cons_append (p : Text) (ps : List Text) (t : Text) :
    parameterLines (p :: ps) ++ t =
      ' ' :: ' ' :: (p ++ ',' :: '\n' :: (parameterLines ps ++ t)) := by
  have h : parameterLines (p :: ps) = ' ' :: ' ' :: p ++ [',', '\n'] ++ parameterLines ps := rfl
  rw [h]
  simp

/-- A line with a parameter before other text. -/
theorem spells_line (p : Parameter) (hrest : Spells site l (',' :: '\n' :: t)) :
    Spells site (.parameter p :: l) (' ' :: ' ' :: (parameter site p ++ ',' :: '\n' :: t)) :=
  .blank (by decide) (.blank (by decide) (.parameter p hrest))

/-- Lines of parameters before other items. -/
theorem spells_parameterLines_append (ps : List Parameter) {items : List (List Token)}
    (hitems : items ≠ []) (h : Spells site (listed items) t) :
    Spells site (listed (each ps ++ items)) (parameterLines (ps.map (parameter site)) ++ t) := by
  induction ps with
  | nil => exact h
  | cons p ps ih =>
    have hlisted : listed (each (p :: ps) ++ items) =
        .parameter p :: .mark ',' :: listed (each ps ++ items) :=
      listed_cons [.parameter p] (List.append_ne_nil_of_right_ne_nil _ hitems)
    rw [hlisted, List.map_cons, parameterLines_cons_append]
    exact spells_line p (.mark (by decide) (.blank (by decide) ih))

/-- Lines of parameters before a closing bracket. -/
theorem spells_parameterLines_mark (ps : List Parameter) {c : Char} (hc : c ∈ closingMarks)
    (h : Spells site (.mark c :: l) t) :
    Spells site (listed (each ps) ++ .mark c :: l)
      (parameterLines (ps.map (parameter site)) ++ t) := by
  induction ps with
  | nil => exact h
  | cons p ps ih =>
    rw [List.map_cons, parameterLines_cons_append]
    cases ps with
    | nil => exact spells_line p (.comma hc (.blank (by decide) h))
    | cons q qs => exact spells_line p (.mark (by decide) (.blank (by decide) ih))

/-- Lines of parameters in brackets. -/
theorem spells_lines_brackets {brackets : Char × Char} (hbrackets : AreBrackets brackets)
    (ps : List Parameter) :
    Spells site (.mark brackets.1 :: listed (each ps) ++ [.mark brackets.2])
      ([brackets.1] ++ "\n".toList ++ parameterLines (ps.map (parameter site)) ++ [brackets.2]) :=
  .mark hbrackets.1 (.blank (by decide) (spells_parameterLines_mark ps hbrackets.2
    (spells_mark (closingMarks_subset hbrackets.2))))

/-- Lines of parameters, of which the last one has brackets with more behind it. -/
theorem spells_lines_concat_brackets {brackets : Char × Char} (hbrackets : AreBrackets brackets)
    (ps : List Parameter) (last : Parameter) (rest : List Parameter) :
    Spells site (.mark '(' :: listed (each (ps ++ [last]) ++
        [.mark brackets.1 :: listed (each rest) ++ [.mark brackets.2]]) ++ [.mark ')'])
      ("(\n".toList ++ parameterLines (ps.map (parameter site)) ++ "  ".toList ++
        parameter site last ++ ", ".toList ++ [brackets.1] ++ "\n".toList ++
        parameterLines (rest.map (parameter site)) ++ [brackets.2] ++ ")".toList) := by
  have hitems : Spells site
      (listed [[.parameter last], .mark brackets.1 :: listed (each rest) ++ [.mark brackets.2]])
      ("  ".toList ++ (parameter site last ++ (", ".toList ++ ([brackets.1] ++ "\n".toList ++
        parameterLines (rest.map (parameter site)) ++ [brackets.2])))) :=
    .blank (by decide) (.blank (by decide) (.parameter last (.mark (by decide)
      (.blank (by decide) (spells_lines_brackets hbrackets rest)))))
  have h := spells_parameterLines_append ps (List.cons_ne_nil _ _) hitems
  have hlines := spells_parentheses (.blank (c := '\n') (by decide) h)
  rw [each_append, List.append_assoc]
  simp only [List.append_assoc, List.cons_append] at hlines ⊢
  exact hlines

/-- Lines of parameters in parentheses. -/
theorem spells_lines_parentheses (ps : List Parameter) :
    Spells site (.mark '(' :: listed (each ps) ++ [.mark ')'])
      ("(\n".toList ++ parameterLines (ps.map (parameter site)) ++ ")".toList) :=
  .mark (by decide) (.blank (by decide)
    (spells_parameterLines_mark ps (by decide) (spells_mark (by decide))))

theorem spells_tallParameters (k : Kinds) (hk : k.all ≠ []) :
    Spells site k.onLines.tokens (tallParameters (k.texts site)) := by
  obtain ⟨positional, optional, named⟩ := k
  obtain rfl | ⟨ps, last, rfl⟩ := List.eq_nil_or_concat' positional
  · cases named with
    | cons q qs => exact spells_parentheses (spells_lines_brackets areBrackets_named (q :: qs))
    | nil =>
      cases optional with
      | cons q qs =>
        exact spells_parentheses (spells_lines_brackets areBrackets_optional (q :: qs))
      | nil => exact absurd rfl hk
  · have hlast : ((ps ++ [last]).map (parameter site)).getLast? = some (parameter site last) := by
      rw [List.map_append]
      exact List.getLast?_concat
    have hinit : ((ps ++ [last]).map (parameter site)).dropLast = ps.map (parameter site) := by
      rw [List.map_append]
      exact List.dropLast_concat
    unfold tallParameters Kinds.texts
    simp only [hlast, hinit]
    cases named with
    | cons q qs => exact spells_lines_concat_brackets areBrackets_named ps last (q :: qs)
    | nil =>
      cases optional with
      | cons q qs => exact spells_lines_concat_brackets areBrackets_optional ps last (q :: qs)
      | nil =>
        have hpositional : (Kinds.mk (ps ++ [last]) [] []).onLines.tokens =
            .mark '(' :: listed (each (ps ++ [last])) ++ [.mark ')'] :=
          congrArg (fun items ↦ .mark '(' :: listed items ++ [.mark ')']) (List.append_nil _)
        rw [hpositional]
        exact spells_lines_parentheses (ps ++ [last])

/-! ### Tags -/

/-- The number of brackets that open tags in the texts of parameters. -/
def tags (site : Site) (ps : List Parameter) : Nat :=
  (ps.flatMap (parameter site)).count '<'

theorem tags_append (ps qs : List Parameter) :
    tags site (ps ++ qs) = tags site ps + tags site qs := by
  unfold tags
  rw [List.flatMap_append, List.count_append]

/-- The tags in a text are those of its parameters. -/
theorem Spells.count_eq (h : Spells site l t) : t.count '<' = tags site (parametersOf l) := by
  induction h with
  | nil => rfl
  | blank hc _ ih => rw [List.count_cons_of_ne (by rintro rfl; revert hc; decide), ih]
  | comma _ _ ih => rw [List.count_cons_of_ne (by decide), ih]
  | mark hc _ ih =>
    rw [List.count_cons_of_ne (by rintro rfl; revert hc; decide), ih]
    rfl
  | parameter p _ ih =>
    rw [List.count_append, ih]
    exact List.count_append.symm

/-- A parameter brings a tag with it. -/
theorem bracket_mem_parameter (site : Site) (p : Parameter) : '<' ∈ parameter site p := by
  have hspan (className content : Text) : '<' ∈ span className content := List.mem_cons_self
  have htype : '<' ∈ typeOrDynamic site p.type := by
    cases p.type with
    | none => exact hspan "type" "dynamic"
    | some t =>
      have hname : '<' ∈ typeName site t := by
        unfold typeName
        simp only
        split
        · exact List.mem_cons_self
        · exact hspan "type" _
      cases t
      exact List.mem_append_left _ (List.mem_append_left _ hname)
  exact List.mem_append_left _ (List.mem_append_left _ (List.mem_append_right _ htype))

theorem tags_pos {ps : List Parameter} (hps : ps ≠ []) : 0 < tags site ps := by
  obtain ⟨p, ps, rfl⟩ := List.exists_cons_of_ne_nil hps
  exact List.count_pos_iff.mpr (List.mem_append_left _ (bracket_mem_parameter site p))

/-! ### All parameters -/

theorem spells_parameters (site : Site) (ps : List Parameter) (before : Nat) (width : Int) :
    Spells site
      (if (before + shownLength (wideParameters (groupParameters site ps)) : Int) ≤ width
        then (Kinds.of ps).onLine else (Kinds.of ps).onLines).tokens
      (parameters site ps before width) := by
  cases ps with
  | nil =>
    have h : Spells site [.mark '(', .mark ')'] ("()" : Text) :=
      .mark (by decide) (spells_mark (by decide))
    split
    · exact h
    · exact h
  | cons p ps =>
    have hall : (Kinds.of (p :: ps)).all ≠ [] := fun h ↦
      List.cons_ne_nil p ps (List.nil_perm.mp (h ▸ Kinds.all_perm (p :: ps)))
    unfold parameters
    simp only [List.isEmpty_cons]
    split
    · exact spells_wideParameters (Kinds.of (p :: ps))
    · exact spells_tallParameters (Kinds.of (p :: ps)) hall

/-- Both layouts have all kinds just where there are no optional parameters or no named ones. -/
theorem Kinds.layouts_eq_iff (k : Kinds) :
    (k.onLine = k ∧ k.onLines = k) ↔ (k.optional = [] ∨ k.named = []) := by
  obtain ⟨positional, optional, named⟩ := k
  cases optional <;> cases named <;> simp [onLine, onLines]

/-- Where both optional and named parameters are there, each layout has fewer tags. -/
theorem tags_layouts_lt (site : Site) {k : Kinds} (hoptional : k.optional ≠ [])
    (hnamed : k.named ≠ []) :
    tags site k.onLine.all < tags site k.all ∧ tags site k.onLines.all < tags site k.all := by
  have hone : 0 < tags site k.optional := tags_pos hoptional
  have hother : 0 < tags site k.named := tags_pos hnamed
  have hline : k.onLine.all = k.positional ++ (k.optional ++ []) := by
    simp [Kinds.onLine, Kinds.all, hoptional]
  have hlines : k.onLines.all = k.positional ++ ([] ++ k.named) := by
    simp [Kinds.onLines, Kinds.all, hnamed]
  rw [hline, hlines]
  unfold Kinds.all
  simp only [tags_append]
  have hnil : tags site [] = 0 := rfl
  omega

/-- **The parameters of a signature.** Whether they are on one line or on several, each is shown
once and in its place, and the layouts show the same ones, just if there are no optional parameters
or no named ones. Where there are both, one line has no named ones and several have no optional
ones, and no reading of the text has all of them. -/
theorem parameters_show_all_iff (site : Site) (ps : List Parameter) (before : Nat) (width : Int) :
    (Kinds.of ps).all.Perm ps ∧
    Spells site
      (if (before + shownLength (wideParameters (groupParameters site ps)) : Int) ≤ width
        then (Kinds.of ps).onLine else (Kinds.of ps).onLines).tokens
      (parameters site ps before width) ∧
    (((Kinds.of ps).onLine = Kinds.of ps ∧ (Kinds.of ps).onLines = Kinds.of ps) ↔
      ((Kinds.of ps).optional = [] ∨ (Kinds.of ps).named = [])) ∧
    ((∃ l, Spells site l (parameters site ps before width) ∧ (parametersOf l).Perm ps) ↔
      ((Kinds.of ps).optional = [] ∨ (Kinds.of ps).named = [])) := by
  have hspells := spells_parameters site ps before width
  refine ⟨Kinds.all_perm ps, hspells, (Kinds.of ps).layouts_eq_iff, ?_, fun h ↦ ?_⟩
  · rintro ⟨l, hl, hperm⟩
    by_contra hboth
    obtain ⟨hoptional, hnamed⟩ := not_or.mp hboth
    have hlt := tags_layouts_lt site hoptional hnamed
    have hall : tags site (parametersOf l) = tags site (Kinds.of ps).all :=
      ((hperm.trans (Kinds.all_perm ps).symm).flatMap_right _).count_eq _
    have hcount := hl.count_eq.symm.trans hspells.count_eq
    rw [Kinds.parametersOf_tokens] at hcount
    split at hcount <;> omega
  · obtain ⟨hline, hlines⟩ := (Kinds.of ps).layouts_eq_iff.mpr h
    rw [hline, hlines, ite_self] at hspells
    refine ⟨_, hspells, ?_⟩
    rw [Kinds.parametersOf_tokens]
    exact Kinds.all_perm ps

end ApiSite.Signature
