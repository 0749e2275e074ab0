import ApiSite.Proofs.Markup.Marks
import Mathlib.Data.List.Chain

/-!
# Running text

Running text consists of ASCII letters, of blanks that stand alone between other characters, and of
names in brackets. Every step that reads or writes markup looks for characters that running text
does not have, for a run of blanks, or for blanks at the ends of a text or a line; so it is enough
to know the source of a running text character by character (`IsSpelled.isPlain`), its ends
(`IsRunning.exists_head`, `IsRunning.exists_last`) and that no blank follows another
(`IsRunning.noTwoBlanks`).
-/

set_option autoImplicit false

namespace ApiSite.Markup

/-- A character of running text, or a name in brackets. -/
inductive Atom where
  | char (c : Char)
  | name (letters : Text)

namespace Atom

/-- Whether an atom is white space. -/
def isBlank : Atom → Bool
  | char c => Text.isBlank c
  | name _ => false

/-- An atom with its name, if it is one, written by `f`. -/
def written (f : Text → Text) : Atom → Text
  | char c => [c]
  | name letters => f letters

/-- The name that an atom is, if it is one. -/
def name? : Atom → Option Text
  | char _ => none
  | name letters => some letters

end Atom

/-- A name in brackets. -/
def bracketed (letters : Text) : Text := '[' :: letters ++ [']']

/-- Atoms as a text, names written by `f`. -/
def writtenWith (f : Text → Text) (as : List Atom) : Text := as.flatMap (Atom.written f)

/-- Atoms as they stand in a source. -/
abbrev sourceOf (as : List Atom) : Text := writtenWith bracketed as

/-- The names in a text. -/
def namesOf (as : List Atom) : List Text := as.filterMap Atom.name?

/-- Text of letters, spaces, line feeds and names. -/
structure IsSpelled (as : List Atom) : Prop where
  char : ∀ {c : Char}, .char c ∈ as → c.isAlpha = true ∨ c = ' ' ∨ c = '\n'
  name : ∀ {letters : Text}, .name letters ∈ as →
    letters ≠ [] ∧ ∀ c ∈ letters, c.isAlpha = true

/-- Running text. -/
structure IsRunning (as : List Atom) : Prop extends IsSpelled as where
  single : as.IsChain fun a b ↦ ¬(a.isBlank = true ∧ b.isBlank = true)
  head : ∃ a rest, as = a :: rest ∧ a.isBlank = false
  last : ∃ before a, as = before ++ [a] ∧ a.isBlank = false

/-! ### Characters -/

/-- The characters of a source of running text. -/
def isPlain (c : Char) : Bool := c.isAlpha || c == ' ' || c == '\n' || c == '[' || c == ']'

theorem toNat_of_isAlpha {c : Char} (hc : c.isAlpha = true) :
    (65 ≤ c.toNat ∧ c.toNat ≤ 90) ∨ (97 ≤ c.toNat ∧ c.toNat ≤ 122) := by
  obtain hupper | hlower := (Bool.or_eq_true c.isUpper c.isLower).mp hc
  · have hrange : 'A'.val ≤ c.val ∧ c.val ≤ 'Z'.val := of_decide_eq_true hupper
    exact .inl ⟨UInt32.le_iff_toNat_le.mp hrange.1, UInt32.le_iff_toNat_le.mp hrange.2⟩
  · obtain ⟨hlow, hhigh⟩ := (Bool.and_eq_true _ _).mp hlower
    exact .inr ⟨UInt32.le_iff_toNat_le.mp (of_decide_eq_true hlow),
      UInt32.le_iff_toNat_le.mp (of_decide_eq_true hhigh)⟩

theorem isBlank_of_isAlpha {c : Char} (hc : c.isAlpha = true) : Text.isBlank c = false := by
  have hrange := toNat_of_isAlpha hc
  simp only [Text.isBlank, Bool.or_eq_false_iff, Bool.and_eq_false_iff, decide_eq_false_iff_not,
    beq_eq_false_iff_ne]
  omega

theorem ne_of_isAlpha {c x : Char} (hc : c.isAlpha = true) (hx : x.isAlpha = false) : c ≠ x := by
  rintro rfl
  rw [hc] at hx
  cases hx

theorem mem_namesOf {as : List Atom} {letters : Text} :
    letters ∈ namesOf as ↔ .name letters ∈ as := by
  rw [namesOf, List.mem_filterMap]
  constructor
  · rintro ⟨a, ha, hname⟩
    cases a with
    | char c => cases hname
    | name l =>
      cases hname
      exact ha
  · exact fun h ↦ ⟨_, h, rfl⟩

variable {as : List Atom} {ps : List (List Atom)} {x : Char}

theorem IsSpelled.of_cons {a : Atom} (h : IsSpelled (a :: as)) : IsSpelled as :=
  ⟨fun hmem ↦ h.char (List.mem_cons_of_mem _ hmem), fun hmem ↦ h.name (List.mem_cons_of_mem _ hmem)⟩

theorem IsSpelled.isPlain_char {c : Char} (h : IsSpelled as) (hc : .char c ∈ as) :
    Markup.isPlain c = true := by
  rcases h.char hc with hletter | rfl | rfl
  · simp [Markup.isPlain, hletter]
  · rfl
  · rfl

theorem IsSpelled.ne_of_char {c : Char} (h : IsSpelled as) (hc : .char c ∈ as)
    (hx : x.isAlpha = false) (hspace : ' ' ≠ x) (hfeed : '\n' ≠ x) : c ≠ x := by
  rcases h.char hc with hletter | rfl | rfl
  · exact ne_of_isAlpha hletter hx
  · exact hspace
  · exact hfeed

theorem IsSpelled.isPlain (h : IsSpelled as) (hx : x ∈ sourceOf as) : isPlain x = true := by
  obtain ⟨a, ha, hx⟩ := List.mem_flatMap.mp hx
  cases a with
  | char c =>
    rw [Atom.written, List.mem_singleton] at hx
    rw [hx]
    exact h.isPlain_char ha
  | name letters =>
    simp only [Atom.written, bracketed, List.cons_append, List.mem_cons, List.mem_append,
      List.not_mem_nil, or_false] at hx
    rcases hx with rfl | hx | rfl
    · rfl
    · simp [Markup.isPlain, (h.name ha).2 x hx]
    · rfl

theorem IsSpelled.not_mem (h : IsSpelled as) (hx : Markup.isPlain x = false) : x ∉ sourceOf as :=
  Text.not_mem_of_all (fun _ ↦ h.isPlain) hx

/-! ### The ends of a running text and its blanks -/

theorem IsRunning.exists_head (h : IsRunning as) :
    ∃ c t, sourceOf as = c :: t ∧ Text.isBlank c = false := by
  obtain ⟨a, rest, rfl, hblank⟩ := h.head
  cases a with
  | char c => exact ⟨c, writtenWith bracketed rest, rfl, hblank⟩
  | name letters => exact ⟨'[', _, rfl, rfl⟩

/-- A running text ends with no blank, however its names are written. -/
theorem IsRunning.exists_last_writtenWith (h : IsRunning as) {f : Text → Text}
    (hf : ∀ letters ∈ namesOf as, ∃ t c, f letters = t ++ [c] ∧ Text.isBlank c = false) :
    ∃ t c, writtenWith f as = t ++ [c] ∧ Text.isBlank c = false := by
  obtain ⟨before, a, rfl, hblank⟩ := h.last
  cases a with
  | char c => exact ⟨writtenWith f before, c, by simp [writtenWith, Atom.written], hblank⟩
  | name letters =>
    obtain ⟨t, c, hwritten, hc⟩ := hf letters (mem_namesOf.mpr List.mem_concat_self)
    exact ⟨writtenWith f before ++ t, c, by simp [writtenWith, Atom.written, hwritten], hc⟩

theorem IsRunning.exists_last (h : IsRunning as) :
    ∃ t c, sourceOf as = t ++ [c] ∧ Text.isBlank c = false :=
  h.exists_last_writtenWith fun letters _ ↦ ⟨'[' :: letters, ']', rfl, rfl⟩

/-- No blank follows another one. -/
abbrev NoTwoBlanks (t : Text) : Prop :=
  t.IsChain fun a b ↦ ¬(Text.isBlank a = true ∧ Text.isBlank b = true)

theorem noTwoBlanks_of_all {t : Text} (ht : ∀ c ∈ t, Text.isBlank c = false) : NoTwoBlanks t := by
  induction t with
  | nil => exact List.IsChain.nil
  | cons c t ih =>
    refine (ih fun d hd ↦ ht d (List.mem_cons_of_mem _ hd)).cons fun d _ hblanks ↦ ?_
    rw [ht c List.mem_cons_self] at hblanks
    cases hblanks.1

theorem isBlank_bracketed {letters : Text} (hletters : ∀ c ∈ letters, c.isAlpha = true) :
    ∀ c ∈ bracketed letters, Text.isBlank c = false := by
  intro c hc
  simp only [bracketed, List.cons_append, List.mem_cons, List.mem_append, List.not_mem_nil,
    or_false] at hc
  rcases hc with rfl | hc | rfl
  · rfl
  · exact isBlank_of_isAlpha (hletters c hc)
  · rfl

/-- Where items that are blank are spelled as one character, and all others without blanks, a text
has no two blanks in a row if no two of its items are blank. -/
theorem noTwoBlanks_flatMap {α : Type} {blank : α → Bool} {g : α → Text} {l : List α}
    (hblank : ∀ a ∈ l, blank a = true → ∃ c, g a = [c])
    (hother : ∀ a ∈ l, blank a = false → g a ≠ [] ∧ ∀ c ∈ g a, Text.isBlank c = false)
    (hsingle : l.IsChain fun a b ↦ ¬(blank a = true ∧ blank b = true)) :
    NoTwoBlanks (l.flatMap g) := by
  induction l with
  | nil => exact List.IsChain.nil
  | cons a l ih =>
    obtain ⟨hfirst, hrest⟩ := List.isChain_cons.mp hsingle
    have hlater := ih (fun b hb ↦ hblank b (List.mem_cons_of_mem _ hb))
      (fun b hb ↦ hother b (List.mem_cons_of_mem _ hb)) hrest
    rw [List.flatMap_cons]
    cases ha : blank a with
    | false =>
      have hnone := (hother a List.mem_cons_self ha).2
      refine (noTwoBlanks_of_all hnone).append hlater fun x hx y _ hblanks ↦ ?_
      rw [hnone x (List.mem_of_mem_getLast? hx)] at hblanks
      cases hblanks.1
    | true =>
      obtain ⟨c, hc⟩ := hblank a List.mem_cons_self ha
      rw [hc]
      refine (List.IsChain.singleton c).append hlater fun x _ y hy hblanks ↦ ?_
      cases l with
      | nil => cases hy
      | cons b l =>
        have hb : blank b = false :=
          Bool.eq_false_iff.mpr fun hb ↦ hfirst b rfl ⟨ha, hb⟩
        obtain ⟨hne, hnone⟩ := hother b (by simp) hb
        obtain ⟨d, s, hd⟩ := List.exists_cons_of_ne_nil hne
        obtain rfl : d = y := by simpa [hd] using hy
        rw [hnone d (hd ▸ List.mem_cons_self)] at hblanks
        cases hblanks.2

theorem noTwoBlanks_sourceOf
    (hname : ∀ {letters : Text}, .name letters ∈ as → ∀ c ∈ letters, c.isAlpha = true)
    (hsingle : as.IsChain fun a b ↦ ¬(a.isBlank = true ∧ b.isBlank = true)) :
    NoTwoBlanks (sourceOf as) := by
  refine noTwoBlanks_flatMap (fun a _ hblank ↦ ?_) (fun a ha hblank ↦ ?_) hsingle
  · cases a with
    | char c => exact ⟨c, rfl⟩
    | name letters => cases hblank
  · cases a with
    | char c => exact ⟨List.cons_ne_nil c [], fun d hd ↦ by rwa [List.mem_singleton.mp hd]⟩
    | name letters => exact ⟨List.cons_ne_nil _ _, isBlank_bracketed (hname ha)⟩

theorem IsRunning.noTwoBlanks (h : IsRunning as) : NoTwoBlanks (sourceOf as) :=
  noTwoBlanks_sourceOf (fun hmem ↦ (h.name hmem).2) h.single

end ApiSite.Markup
