import ApiSite.Markup.Inline.Reading
import ApiSite.Proofs.LetterCase
import ApiSite.Proofs.Markup.Running

/-!
# Rules that find nothing

Every rule of inline markup begins with a character or two that it needs. Where these do not occur
the rule recognises nothing (`Spares`), and a run of such rules leaves a text to the later ones
(`applyRules_of_spares`). A rule may still pass over a piece of text that looks like its own and
stays as it is.
-/

set_option autoImplicit false

namespace ApiSite.Markup.Inline

variable {s ts : Pieces} {t : Text} {x : Char} {setting : Setting} {rule : Rule}
  {rules later : List Rule}

/-! ### Texts without certain characters -/

/-- No piece is the given character. -/
def Lacks (c : Char) (s : Pieces) : Prop := ∀ p ∈ s, p.is c = false

theorem Lacks.suffix (h : Lacks x ts) (hs : s <:+ ts) : Lacks x s := fun p hp ↦ h p (hs.subset hp)

theorem Lacks.of_cons {p : Piece} (h : Lacks x (p :: s)) : Lacks x s :=
  h.suffix (List.suffix_cons _ _)

theorem Lacks.ne {c : Char} (h : Lacks x (.char c :: s)) : c ≠ x := by
  simpa [Piece.is] using h _ List.mem_cons_self

theorem lacks_ofText (ht : x ∉ t) : Lacks x (Pieces.ofText t) := by
  intro p hp
  obtain ⟨c, hc, rfl⟩ := List.mem_map.mp hp
  simp only [Piece.is, beq_eq_false_iff_ne]
  exact fun heq ↦ ht (heq ▸ hc)

theorem after?_eq_none (hx : x ∈ t) (hs : Lacks x s) : Pieces.after? t s = none := by
  induction t generalizing s with
  | nil => cases hx
  | cons c t ih =>
    cases s with
    | nil => rfl
    | cons p s =>
      rw [Pieces.after?]
      split
      · next hp =>
        rcases List.mem_cons.mp hx with rfl | hx
        · rw [hs p List.mem_cons_self] at hp
          cases hp
        · exact ih hx hs.of_cons
      · rfl

theorem beginsWith_is_eq_false (hs : Lacks x s) : Pieces.beginsWith (·.is x) s = false := by
  cases s with
  | nil => rfl
  | cons p s => exact hs p List.mem_cons_self

theorem countStart_eq_zero (hs : Lacks x s) : Pieces.countStart (· == x) s = 0 := by
  cases s with
  | nil => rfl
  | cons p s =>
    have hp : p.satisfies (· == x) = false := by
      have := hs p List.mem_cons_self
      cases p with
      | char c => exact this
      | literal n u => rfl
      | element n e => rfl
    simp [Pieces.countStart, hp]

/-- Where the pieces of a text come from items of which no two in a row are blank, no two pieces in
a row are spaces. -/
theorem noTwoSpaces_of_forall₂ {α : Type} {blank : α → Bool} {l : List α}
    (h : List.Forall₂ (fun a p ↦ p.is ' ' = true → blank a = true) l ts)
    (hl : l.IsChain fun a b ↦ ¬(blank a = true ∧ blank b = true)) :
    ts.IsChain fun p q ↦ ¬(p.is ' ' = true ∧ q.is ' ' = true) := by
  induction h with
  | nil => exact List.IsChain.nil
  | cons hhere h ih =>
    obtain ⟨hfirst, hrest⟩ := List.isChain_cons.mp hl
    refine (ih hrest).cons fun q hq hspaces ↦ ?_
    cases h with
    | nil => cases hq
    | cons hnext _ =>
      cases hq
      exact hfirst _ rfl ⟨hhere hspaces.1, hnext hspaces.2⟩

theorem noTwoSpaces_of_lacks (hspace : Lacks ' ' ts) :
    ts.IsChain fun p q ↦ ¬(p.is ' ' = true ∧ q.is ' ' = true) := by
  refine List.isChain_iff_getElem.mpr fun i hi hboth ↦ ?_
  rw [hspace _ (List.getElem_mem _)] at hboth
  cases hboth.1

/-! ### Rules that recognise nothing -/

/-- A rule recognises nothing anywhere in a text. -/
def Spares (setting : Setting) (rule : Rule) (ts : Pieces) : Prop :=
  ∀ (trace : Trace) (previous : Option Piece) (s : Pieces), s <:+ ts →
    rule setting trace previous s = (.reject, trace) ∨
      ∃ n, rule setting trace previous s = (.keep n, trace)

theorem Spares.of_cons {p : Piece} (h : Spares setting rule (p :: s)) : Spares setting rule s :=
  fun trace previous _ hsuffix ↦ h trace previous _ (hsuffix.trans (List.suffix_cons _ _))

theorem pass_of_spares {inside : Draft → Trace → Draft × Trace} {previous : Option Piece}
    {pending : Pending} {trace : Trace} (hpending : ∀ n, pending ≠ .taken n)
    (h : Spares setting rule ts) :
    pass setting rule inside previous pending ts trace = (ts, trace) := by
  induction ts generalizing previous pending with
  | nil => rw [pass]
  | cons p ts ih =>
    have hrest (pending : Pending) (hpending : ∀ n, pending ≠ .taken n) :
        pass setting rule inside (some p) pending ts trace = (ts, trace) := ih hpending h.of_cons
    have hkept (n : Nat) := hrest (.kept n) (by simp)
    have hnothing := hrest .nothing (by simp)
    have hask : pass setting rule inside previous .nothing (p :: ts) trace = (p :: ts, trace) := by
      rcases h trace previous (p :: ts) List.suffix_rfl with hrule | ⟨n, hrule⟩
      · simp only [pass, hrule, hnothing]
      · simp only [pass, hrule, hkept]
    cases pending with
    | nothing => exact hask
    | taken n => exact absurd rfl (hpending n)
    | kept n =>
      cases n with
      | zero => exact hask
      | succ n => simp only [pass, hkept]

/-- Rules that recognise nothing leave a text to the later ones. -/
theorem applyRules_of_spares {nested : List Rule → Pieces → Trace → Pieces × Trace} {trace : Trace}
    (h : ∀ rule ∈ rules, Spares setting rule ts) :
    applyRules setting nested (rules ++ later) ts trace =
      applyRules setting nested later ts trace := by
  induction rules with
  | nil => rfl
  | cons rule rules ih =>
    have hpass (inside : Draft → Trace → Draft × Trace) :
        pass setting rule inside none .nothing ts trace = (ts, trace) :=
      pass_of_spares (by simp) (h rule List.mem_cons_self)
    rw [List.cons_append, applyRules]
    simp only [hpass]
    exact ih fun rule hrule ↦ h rule (List.mem_cons_of_mem _ hrule)

/-- A rule that leaves no trace spares a text if it refuses each place of it. -/
theorem spares_pure {f : Option Piece → Pieces → Verdict}
    (hf : ∀ previous s, s <:+ ts → f previous s = .reject) : Spares setting (.pure f) ts :=
  fun trace previous s hs ↦ Or.inl (by rw [Rule.pure, hf previous s hs])

namespace Rule

theorem spares_codeSpan (htick : Lacks '\x60' ts) (hslash : Lacks '\\' ts) :
    Spares setting codeSpan ts := by
  refine spares_pure fun previous s hs ↦ ?_
  simp [countStart_eq_zero (hslash.suffix hs), beginsWith_is_eq_false (htick.suffix hs)]

theorem spares_backslash (hslash : Lacks '\\' ts) : Spares setting backslash ts := by
  refine spares_pure fun previous s hs ↦ ?_
  split
  · exact absurd rfl (hslash.suffix hs).ne
  · exact absurd rfl (hslash.suffix hs).ne
  · rfl

theorem spares_bracketCode (hcolon : Lacks ':' ts) : Spares setting bracketCode ts := by
  refine spares_pure fun previous s hs ↦ ?_
  have hnone : Pieces.after? "[:" s = none :=
    after?_eq_none (x := ':') (by decide) (hcolon.suffix hs)
  rw [hnone]
  rfl

theorem labelled?_eq_none (hsetting : setting.definitions = []) (label : Pieces) :
    labelled? setting label = none := by
  have hnone (t : Text) : definition? setting t = none := by simp [definition?, hsetting]
  simp [labelled?, hnone]

theorem labelReference_of_no_definitions (hsetting : setting.definitions = [])
    (found? : Option (Pieces × Nat)) (s : Pieces) (make : Pieces → Text → Option Text → Draft) :
    labelReference found? setting s make = .reject ∨
      ∃ n, labelReference found? setting s make = .keep n := by
  rw [labelReference.eq_def]
  split
  · exact Or.inl rfl
  · split
    · exact Or.inl rfl
    · rw [labelled?_eq_none hsetting]
      exact Or.inr ⟨_, rfl⟩

theorem spares_linkByLabel (hsetting : setting.definitions = []) :
    Spares setting linkByLabel ts := by
  intro trace previous s _
  rcases labelReference_of_no_definitions hsetting (bracket? previous s) s link with h | ⟨n, h⟩
  · exact Or.inl (by rw [linkByLabel, h])
  · exact Or.inr ⟨n, by rw [linkByLabel, h]⟩

theorem linkTarget?_eq_none (hparen : Lacks '(' s) : linkTarget? s = none := by
  rw [linkTarget?.eq_def]
  split
  · exact absurd rfl hparen.ne
  · rfl

theorem spares_linkToTarget (hparen : Lacks '(' ts) : Spares setting linkToTarget ts := by
  refine spares_pure fun previous s hs ↦ ?_
  split
  · rfl
  · rw [linkTarget?_eq_none ((hparen.suffix hs).suffix (List.drop_suffix _ _))]

theorem imageBracket?_eq_none (hbang : Lacks '!' s) : imageBracket? s = none := by
  rw [imageBracket?.eq_def]
  split
  · exact absurd rfl hbang.ne
  · rfl

theorem spares_imageAtTarget (hbang : Lacks '!' ts) : Spares setting imageAtTarget ts := by
  refine spares_pure fun previous s hs ↦ ?_
  rw [imageBracket?_eq_none (hbang.suffix hs)]

theorem spares_imageByLabel (hbang : Lacks '!' ts) : Spares setting imageByLabel ts := by
  intro trace previous s hs
  refine Or.inl ?_
  rw [imageByLabel, imageBracket?_eq_none (hbang.suffix hs), labelReference]

theorem spares_imageByText (hbang : Lacks '!' ts) : Spares setting imageByText ts := by
  intro trace previous s hs
  refine Or.inl ?_
  rw [imageByText, imageBracket?_eq_none (hbang.suffix hs)]

theorem spares_bracketedAddress (hangle : Lacks '<' ts) : Spares setting bracketedAddress ts := by
  refine spares_pure fun previous s hs ↦ ?_
  split
  · exact absurd rfl (hangle.suffix hs).ne
  · rfl

theorem spares_bareAddress (hcolon : Lacks ':' ts) (hdot : Lacks '.' ts) :
    Spares setting bareAddress ts := by
  refine spares_pure fun previous s hs ↦ ?_
  have hsecure : Pieces.after? "https://" s = none :=
    after?_eq_none (x := ':') (by decide) (hcolon.suffix hs)
  have hplain : Pieces.after? "http://" s = none :=
    after?_eq_none (x := ':') (by decide) (hcolon.suffix hs)
  have hbare : Pieces.after? "www." s = none :=
    after?_eq_none (x := '.') (by decide) (hdot.suffix hs)
  simp only [List.findSome?, hsecure, hplain, hbare, Option.map_none]
  exact ite_self _

theorem spares_mailAddress (hangle : Lacks '<' ts) : Spares setting mailAddress ts := by
  refine spares_pure fun previous s hs ↦ ?_
  split
  · exact absurd rfl (hangle.suffix hs).ne
  · rfl

theorem spares_lineBreak (hspaces : ts.IsChain fun p q ↦ ¬(p.is ' ' = true ∧ q.is ' ' = true)) :
    Spares setting lineBreak ts := by
  refine spares_pure fun previous s hs ↦ ?_
  have hnone : Pieces.after? "  \n" s = none := by
    have hchain := hspaces.suffix hs
    match s, hchain with
    | [], _ => rfl
    | [p], _ => cases hp : p.is ' ' <;> simp [Pieces.after?, hp]
    | p :: q :: s, hchain =>
      have hpair := (List.isChain_cons_cons.mp hchain).1
      cases hp : p.is ' ' <;> cases hq : q.is ' ' <;> simp_all [Pieces.after?]
  rw [hnone]

theorem spares_inlineTag (hangle : Lacks '<' ts) : Spares setting inlineTag ts := by
  intro trace previous s hs
  have hnone : rawMarkup? s = none := by
    rw [rawMarkup?.eq_def]
    split
    · exact absurd rfl (hangle.suffix hs).ne
    · rfl
  exact Or.inl (by rw [inlineTag, hnone])

theorem spares_characterReference (hamp : Lacks '&' ts) : Spares setting characterReference ts := by
  intro trace previous s hs
  have hnone : referenceSize? s = none := by
    rw [referenceSize?.eq_def]
    split
    · exact absurd rfl (hamp.suffix hs).ne
    · rfl
  exact Or.inl (by rw [characterReference, hnone])

theorem spares_deletion (htilde : Lacks '~' ts) : Spares setting deletion ts := by
  refine spares_pure fun previous s hs ↦ ?_
  have hnone : Pieces.after? "~~" s = none :=
    after?_eq_none (x := '~') (by decide) (htilde.suffix hs)
  rw [hnone]

theorem mem_of_plain?_eq_some {c : Char} (ht : Pieces.plain? s = some t) (hc : c ∈ t) :
    .char c ∈ s := by
  induction s generalizing t with
  | nil =>
    obtain rfl := Option.some.inj ht
    cases hc
  | cons p s ih =>
    cases p with
    | char d =>
      obtain ⟨rest, hrest, rfl⟩ := Option.map_eq_some_iff.mp ht
      rcases List.mem_cons.mp hc with rfl | hc
      · exact List.mem_cons_self
      · exact List.mem_cons_of_mem _ (ih hrest hc)
    | literal n u => cases ht
    | element n e => cases ht

/-- An address in angle brackets needs a scheme, and so a colon. -/
theorem spares_bracketedAddress_of_colon (hcolon : Lacks ':' ts) :
    Spares setting bracketedAddress ts := by
  refine spares_pure fun previous s hs ↦ ?_
  split
  · next rest =>
    have hnone : afterScheme? ["http://", "https://", "ftp://", "ftps://"] rest = none := by
      rw [afterScheme?, List.findSome?_eq_none_iff]
      intro scheme hscheme
      have hmem : ':' ∈ scheme := by
        revert scheme
        decide
      simp only
      split
      · next t ht =>
        rw [if_neg]
        intro heq
        rw [← eq_of_beq heq] at hmem
        obtain ⟨c, hc, hlower⟩ := List.mem_map.mp hmem
        obtain rfl : c = ':' := by_contra fun hne ↦ Text.toLower_ne (by decide) hne hlower
        have hin : .char ':' ∈ rest := List.mem_of_mem_take (mem_of_plain?_eq_some ht hc)
        have hlacks := hcolon.suffix hs _ (List.mem_cons_of_mem _ hin)
        cases hlacks
      · rfl
    rw [hnone]
  · rfl

/-- A mail address in angle brackets needs an at sign. -/
theorem spares_mailAddress_of_at (hat : Lacks '@' ts) : Spares setting mailAddress ts := by
  refine spares_pure fun previous s hs ↦ ?_
  split
  · next rest =>
    have hhost (body : Pieces) (hbody : ∀ p ∈ body, p ∈ rest) :
        (body.reverse.takeWhile fun p ↦ !p.is '@').reverse = body := by
      rw [List.takeWhile_eq_self_iff.mpr, List.reverse_reverse]
      intro p hp
      have hlacks := hat.suffix hs p (List.mem_cons_of_mem _ (hbody p (List.mem_reverse.mp hp)))
      rw [hlacks]
      rfl
    simp only
    rw [hhost _ fun p hp ↦ List.takeWhile_subset _ hp]
    simp
  · rfl

end Rule

end ApiSite.Markup.Inline
