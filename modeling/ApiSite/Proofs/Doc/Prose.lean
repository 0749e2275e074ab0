import ApiSite.Proofs.Markup.Document

/-!
# Prose

The documentation texts that this part is about: paragraphs with a blank line between two of them,
of lines, of words and names in brackets with a space between two of them. `Prose.written` spells
such a text out with a given way to write its names; in its source they stand in brackets.

A paragraph of prose is a running text (`Paragraph.isRunning_atoms`), and prose is a source of
running texts (`Prose.sourceOfAll_paragraphs`).
-/

set_option autoImplicit false

namespace ApiSite.Doc

open Markup

/-- One or more items. -/
structure Many (α : Type) where
  first : α
  rest : List α

namespace Many

variable {α β : Type}

def toList (m : Many α) : List α := m.first :: m.rest

/-- What `g` makes of each item, with `sep` between two of them. -/
def joined (sep : List β) (g : α → List β) (m : Many α) : List β :=
  g m.first ++ m.rest.flatMap fun a ↦ sep ++ g a

end Many

/-- A word of ASCII letters. -/
structure Word where
  letters : Text
  letters_ne_nil : letters ≠ []
  isAlpha : ∀ c ∈ letters, c.isAlpha = true

theorem Word.exists_head (w : Word) : ∃ c rest, w.letters = c :: rest ∧ c.isAlpha = true := by
  obtain ⟨c, rest, heq⟩ := List.exists_cons_of_ne_nil w.letters_ne_nil
  exact ⟨c, rest, heq, w.isAlpha c (heq ▸ List.mem_cons_self)⟩

theorem Word.exists_last (w : Word) : ∃ before c, w.letters = before ++ [c] ∧ c.isAlpha = true := by
  obtain hnil | ⟨before, c, hletters⟩ := List.eq_nil_or_concat w.letters
  · exact absurd hnil w.letters_ne_nil
  rw [List.concat_eq_append] at hletters
  exact ⟨before, c, hletters, w.isAlpha c (by simp [hletters])⟩

/-- A word of a line: one of its text, or a name that it refers to. -/
inductive Token where
  | plain (w : Word)
  | reference (w : Word)

abbrev Line := Many Token

abbrev Paragraph := Many Line

abbrev Prose := Many Paragraph

/-! ### Spelling -/

/-- A token, a name written by `f`. -/
def Token.written (f : Text → Text) : Token → Text
  | plain w => w.letters
  | reference w => f w.letters

def Line.written (f : Text → Text) (l : Line) : Text := l.joined [' '] (Token.written f)

def Paragraph.written (f : Text → Text) (p : Paragraph) : Text := p.joined ['\n'] (Line.written f)

/-- Prose, its names written by `f`. -/
def Prose.written (f : Text → Text) (d : Prose) : Text :=
  d.joined ['\n', '\n'] (Paragraph.written f)

/-- Prose as it stands in a documentation text. -/
def Prose.source (d : Prose) : Text := d.written bracketed

def Token.name? : Token → Option Text
  | plain _ => none
  | reference w => some w.letters

/-- The names in prose, in order. -/
def Prose.names (d : Prose) : List Text :=
  d.toList.flatMap fun p ↦ p.toList.flatMap fun l ↦ l.toList.filterMap Token.name?

/-! ### Prose as running text -/

def Token.atoms : Token → List Atom
  | plain w => w.letters.map .char
  | reference w => [.name w.letters]

def Line.atoms (l : Line) : List Atom := l.joined [.char ' '] Token.atoms

def Paragraph.atoms (p : Paragraph) : List Atom := p.joined [.char '\n'] Line.atoms

/-- Prose from its first character to its last. -/
def Prose.atoms (d : Prose) : List Atom := d.joined [.char '\n', .char '\n'] Paragraph.atoms

/-- The paragraphs of prose. -/
def Prose.paragraphs (d : Prose) : List (List Atom) := d.toList.map Paragraph.atoms

variable {α : Type} {f : Text → Text} {m : Many α} {g : α → List Atom} {sep : List Atom}

theorem flatMap_joined {β γ : Type} {sep : List β} {g : α → List β} {h : β → List γ} :
    (m.joined sep g).flatMap h = m.joined (sep.flatMap h) fun a ↦ (g a).flatMap h := by
  simp [Many.joined, List.flatMap_assoc]

theorem writtenWith_joined :
    writtenWith f (m.joined sep g) =
      m.joined (writtenWith f sep) fun a ↦ writtenWith f (g a) := flatMap_joined

theorem Token.writtenWith_atoms (t : Token) : writtenWith f t.atoms = t.written f := by
  cases t with
  | plain w => simp [Token.atoms, Token.written, writtenWith, Atom.written, List.flatMap_map]
  | reference w => simp [Token.atoms, Token.written, writtenWith, Atom.written]

theorem Line.writtenWith_atoms (l : Line) : writtenWith f (Line.atoms l) = Line.written f l := by
  rw [Line.atoms, writtenWith_joined]
  simp only [Token.writtenWith_atoms]
  rfl

theorem Paragraph.writtenWith_atoms (p : Paragraph) :
    writtenWith f (Paragraph.atoms p) = Paragraph.written f p := by
  rw [Paragraph.atoms, writtenWith_joined]
  simp only [Line.writtenWith_atoms]
  rfl

theorem Prose.writtenWith_atoms (d : Prose) : writtenWith f (Prose.atoms d) = d.written f := by
  rw [Prose.atoms, writtenWith_joined]
  simp only [Paragraph.writtenWith_atoms]
  rfl

/-! ### Names -/

theorem namesOf_joined (hsep : namesOf sep = []) :
    namesOf (m.joined sep g) = m.toList.flatMap fun a ↦ namesOf (g a) := by
  have hrest : namesOf (m.rest.flatMap fun a ↦ sep ++ g a) =
      m.rest.flatMap fun a ↦ namesOf (g a) := by
    have hnone : sep.filterMap Atom.name? = [] := hsep
    simp only [namesOf, List.filterMap_flatMap, List.filterMap_append, hnone, List.nil_append]
  rw [Many.joined, namesOf, List.filterMap_append, ← namesOf, ← namesOf, hrest]
  rfl

theorem Token.namesOf_atoms (t : Token) : namesOf t.atoms = t.name?.toList := by
  cases t with
  | plain w =>
    simp [Token.atoms, namesOf, List.filterMap_map, Function.comp_def, Atom.name?, Token.name?]
  | reference w => rfl

theorem Line.namesOf_atoms (l : Line) :
    namesOf (Line.atoms l) = l.toList.filterMap Token.name? := by
  rw [Line.atoms, namesOf_joined rfl]
  simp only [Token.namesOf_atoms]
  induction l.toList with
  | nil => rfl
  | cons t ts ih =>
    rw [List.flatMap_cons, ih]
    cases h : t.name? <;> simp [h]

theorem Paragraph.namesOf_atoms (p : Paragraph) :
    namesOf (Paragraph.atoms p) = p.toList.flatMap fun l ↦ l.toList.filterMap Token.name? := by
  rw [Paragraph.atoms, namesOf_joined rfl]
  simp only [Line.namesOf_atoms]

theorem Prose.namesOf_atoms (d : Prose) : namesOf (Prose.atoms d) = d.names := by
  rw [Prose.atoms, namesOf_joined rfl]
  simp only [Paragraph.namesOf_atoms]
  rfl

theorem Prose.flatMap_namesOf (d : Prose) : d.paragraphs.flatMap namesOf = d.names := by
  rw [Prose.paragraphs, List.flatMap_map]
  simp only [Paragraph.namesOf_atoms]
  rfl

/-! ### Blanks -/

/-- Blanks stand alone between other items. -/
structure IsSpaced {β : Type} (blank : β → Bool) (l : List β) : Prop where
  single : l.IsChain fun a b ↦ ¬(blank a = true ∧ blank b = true)
  head : ∃ a rest, l = a :: rest ∧ blank a = false
  last : ∃ before a, l = before ++ [a] ∧ blank a = false

section Spaced

variable {β : Type} {blank : β → Bool} {l₁ l₂ : List β} {b : β}

theorem isSpaced_of_all (hne : l₁ ≠ []) (hall : ∀ a ∈ l₁, blank a = false) :
    IsSpaced blank l₁ := by
  have hpairwise : l₁.Pairwise fun a b ↦ ¬(blank a = true ∧ blank b = true) := by
    refine List.pairwise_of_forall_mem_list fun a ha b _ hblanks ↦ ?_
    rw [hall a ha] at hblanks
    cases hblanks.1
  refine ⟨hpairwise.isChain, ?_, ?_⟩
  · obtain ⟨a, rest, hcons⟩ := List.exists_cons_of_ne_nil hne
    exact ⟨a, rest, hcons, hall a (hcons ▸ List.mem_cons_self)⟩
  · exact ⟨_, _, (List.dropLast_append_getLast hne).symm, hall _ (List.getLast_mem hne)⟩

theorem isSpaced_append (h₁ : IsSpaced blank l₁) (h₂ : IsSpaced blank l₂) :
    IsSpaced blank (l₁ ++ b :: l₂) := by
  refine ⟨?_, ?_, ?_⟩
  · obtain ⟨c, rest, rfl, hc⟩ := h₂.head
    obtain ⟨before, a, rfl, ha⟩ := h₁.last
    refine h₁.single.append (h₂.single.cons fun x hx hblanks ↦ ?_) fun x hx y _ hblanks ↦ ?_
    · cases hx
      rw [hc] at hblanks
      cases hblanks.2
    · rw [List.getLast?_concat] at hx
      cases hx
      rw [ha] at hblanks
      cases hblanks.1
  · obtain ⟨a, rest, rfl, ha⟩ := h₁.head
    exact ⟨a, _, rfl, ha⟩
  · obtain ⟨before, c, rfl, hc⟩ := h₂.last
    exact ⟨l₁ ++ b :: before, c, by simp, hc⟩

theorem isSpaced_joined {h : α → List β} (hh : ∀ a, IsSpaced blank (h a)) :
    IsSpaced blank (m.joined [b] h) := by
  obtain ⟨first, rest⟩ := m
  induction rest generalizing first with
  | nil => simpa [Many.joined] using hh first
  | cons second rest ih => simpa [Many.joined] using isSpaced_append (hh first) (ih second)

end Spaced

theorem mem_joined {β : Type} {h : α → List β} {sep : List β} {b : β} (hb : b ∈ m.joined sep h) :
    b ∈ sep ∨ ∃ a ∈ m.toList, b ∈ h a := by
  rcases List.mem_append.mp hb with hb | hb
  · exact Or.inr ⟨_, List.mem_cons_self, hb⟩
  · obtain ⟨a, ha, hb⟩ := List.mem_flatMap.mp hb
    rcases List.mem_append.mp hb with hb | hb
    · exact Or.inl hb
    · exact Or.inr ⟨a, List.mem_cons_of_mem _ ha, hb⟩

theorem isRunning_iff {as : List Atom} :
    IsRunning as ↔ IsSpelled as ∧ IsSpaced Atom.isBlank as :=
  ⟨fun h ↦ ⟨h.toIsSpelled, h.single, h.head, h.last⟩,
    fun h ↦ ⟨h.1, h.2.single, h.2.head, h.2.last⟩⟩

theorem isSpelled_joined {c : Char} (hg : ∀ a, IsSpelled (g a)) (hc : c = ' ' ∨ c = '\n') :
    IsSpelled (m.joined [.char c] g) := by
  refine ⟨fun {d} hd ↦ ?_, fun {letters} hl ↦ ?_⟩
  · rcases mem_joined hd with heq | ⟨a, -, hd⟩
    · cases List.mem_singleton.mp heq
      exact Or.inr hc
    · exact (hg a).char hd
  · rcases mem_joined hl with heq | ⟨a, -, hl⟩
    · cases List.mem_singleton.mp heq
    · exact (hg a).name hl

theorem isRunning_joined {c : Char} (hg : ∀ a, IsRunning (g a)) (hc : c = ' ' ∨ c = '\n') :
    IsRunning (m.joined [.char c] g) :=
  isRunning_iff.mpr ⟨isSpelled_joined (fun a ↦ (hg a).toIsSpelled) hc,
    isSpaced_joined fun a ↦ (isRunning_iff.mp (hg a)).2⟩

theorem Token.isRunning_atoms (t : Token) : IsRunning t.atoms := by
  cases t with
  | plain w =>
    have hne : w.letters.map Atom.char ≠ [] := mt List.map_eq_nil_iff.mp w.letters_ne_nil
    refine isRunning_iff.mpr ⟨⟨fun {c} hc ↦ ?_, fun {letters} hl ↦ ?_⟩,
      isSpaced_of_all hne fun a ha ↦ ?_⟩
    · obtain ⟨d, hd, heq⟩ := List.mem_map.mp hc
      cases heq
      exact Or.inl (w.isAlpha c hd)
    · obtain ⟨d, -, heq⟩ := List.mem_map.mp hl
      cases heq
    · obtain ⟨c, hc, rfl⟩ := List.mem_map.mp ha
      exact isBlank_of_isAlpha (w.isAlpha c hc)
  | reference w =>
    refine isRunning_iff.mpr ⟨⟨fun {c} hc ↦ ?_, fun {letters} hl ↦ ?_⟩,
      isSpaced_of_all (List.cons_ne_nil _ _) fun a ha ↦ ?_⟩
    · cases List.mem_singleton.mp hc
    · cases List.mem_singleton.mp hl
      exact ⟨w.letters_ne_nil, w.isAlpha⟩
    · rw [List.mem_singleton.mp ha]
      rfl

theorem Line.isRunning_atoms (l : Line) : IsRunning (Line.atoms l) :=
  isRunning_joined Token.isRunning_atoms (Or.inl rfl)

theorem Paragraph.isRunning_atoms (p : Paragraph) : IsRunning (Paragraph.atoms p) :=
  isRunning_joined Line.isRunning_atoms (Or.inr rfl)

/-! ### Paragraphs -/

theorem join_toList {h : α → Text} {sep : Text} :
    Text.join sep (m.toList.map h) = m.joined sep h := by
  obtain ⟨first, rest⟩ := m
  induction rest generalizing first with
  | nil => simp [Many.toList, Many.joined, Text.join]
  | cons second rest ih =>
    have hrest := ih second
    simp only [Many.toList, Many.joined, List.map_cons, List.flatMap_cons] at hrest ⊢
    rw [Text.join, hrest]
    simp

/-- The paragraphs of prose, each written out, are the prose written out. -/
theorem Prose.join_paragraphs (d : Prose) :
    Text.join ['\n', '\n'] (d.paragraphs.map (writtenWith f)) = d.written f := by
  rw [Prose.paragraphs, List.map_map, join_toList]
  simp only [Function.comp_def, Paragraph.writtenWith_atoms]
  rfl

theorem Prose.sourceOfAll_paragraphs (d : Prose) : sourceOfAll d.paragraphs = d.source :=
  d.join_paragraphs

theorem Prose.paragraphs_ne_nil (d : Prose) : d.paragraphs ≠ [] := List.cons_ne_nil _ _

theorem Prose.isRunning_paragraphs (d : Prose) : ∀ as ∈ d.paragraphs, IsRunning as := by
  intro as has
  obtain ⟨p, -, rfl⟩ := List.mem_map.mp has
  exact Paragraph.isRunning_atoms p

theorem Prose.isSpelled_atoms (d : Prose) : IsSpelled (Prose.atoms d) := by
  refine ⟨fun {c} hc ↦ ?_, fun {letters} hl ↦ ?_⟩
  · rcases mem_joined hc with heq | ⟨p, -, hp⟩
    · obtain rfl : c = '\n' := by simpa using heq
      exact Or.inr (Or.inr rfl)
    · exact (Paragraph.isRunning_atoms p).char hp
  · rcases mem_joined hl with heq | ⟨p, -, hp⟩
    · simp at heq
    · exact (Paragraph.isRunning_atoms p).name hp

end ApiSite.Doc
