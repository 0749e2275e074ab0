import ApiSite.Proofs.Sanitize.Attributes
import ApiSite.Proofs.Sanitize.Marks

/-!
# The frames that cleaning leaves

A frame is kept if its source is on a host that is allowed. `frames_left` says which of the frames
of a cleaned text this is true of. The text is divided by marks where something has been removed
since the elements were, and a frame between two marks in which no brace has been escaped has been
looked at, unless it begins within another frame that is allowed. What has been looked at is the
first source in the text of the frame, which is that of its opening tag if this is written plainly.

Nothing of this can be left out. A frame that comes into being from what stands on the two sides of
another one that is removed has never been looked at. A backslash before a brace can change the host
of an address. And the first source of
`<iframe data-src="https://youtube.com/" src="https://example.com/"></iframe>` is not that of the
tag.

A frame ends at the first end tag, so that what is done with it does not depend on what stands
behind it (`frame_append`). This is why a frame that is left stands in front of the rule as the same
frame, although the rule sees all of the text: the readers of tags and elements read exactly what
they have read (`Consumes`). The pass over frames copies an allowed frame character by character,
and what it carries along is the part of the frame that is still to be copied (`IsWithin`).
-/

set_option autoImplicit false

namespace ApiSite.Sanitize

variable {c d : Char} {a f g rest s t : Text} {name word : Text} {hosts : List Text}
  {m : Marked} {kept : Bool} {k : Nat}

/-! ### Elements in a longer text -/

/-- A reader of the front of a text reads exactly this, whatever stands behind. -/
def Consumes (read : Text → Option Text) (a : Text) : Prop := ∀ s, read (a ++ s) = some s

theorem consumes_afterWord? {letters : Text} (h : Text.afterWord? word letters = some []) :
    Consumes (Text.afterWord? word) letters := by
  intro s
  induction word generalizing letters with
  | nil =>
    obtain rfl := Option.some.inj h
    rfl
  | cons w word ih =>
    cases letters with
    | nil => cases h
    | cons c letters =>
      rw [Text.afterWord?] at h
      split at h
      · next hletter => rw [List.cons_append, Text.afterWord?, if_pos hletter, ih h]
      · cases h

theorem consumes_afterWord?_of_eq_some (h : Text.afterWord? word t = some rest)
    (hword : word ≠ []) : ∃ c letters, t = c :: letters ++ rest ∧
      Text.afterWord? word (c :: letters) = some [] ∧
      Consumes (Text.afterWord? word) (c :: letters) := by
  obtain ⟨letters, rfl, hletters⟩ := eq_append_of_afterWord? h
  cases letters with
  | nil =>
    cases word with
    | nil => exact absurd rfl hword
    | cons w word => cases hletters
  | cons c letters => exact ⟨c, letters, rfl, hletters, consumes_afterWord? hletters⟩

theorem bracket_not_mem_of_blank {b : Text} (hb : ∀ x ∈ b, Text.isBlank x = true) : '<' ∉ b :=
  fun hmem ↦ absurd (hb _ hmem) (by decide)

/-- Words whose letters are no opening bracket in any case. -/
abbrev HasNoBracket (word : Text) : Prop := word.all (fun w ↦ !Text.sameLetter w '<') = true

theorem HasNoBracket.not_mem {letters : Text} (hword : HasNoBracket word)
    (h : Text.afterWord? word letters = some []) : '<' ∉ letters := by
  intro hmem
  obtain ⟨w, hw, hletter⟩ := exists_sameLetter_of_mem h hmem
  have hother := List.all_eq_true.mp hword w hw
  rw [hletter] at hother
  cases hother

theorem of_afterSpaced?_eq_some (h : afterSpaced? c t = some (d :: rest)) :
    ∃ b b', t = b ++ c :: (b' ++ d :: rest) ∧ (∀ x ∈ b, Text.isBlank x = true) ∧
      (∀ x ∈ b', Text.isBlank x = true) ∧ Text.isBlank c = false ∧ Text.isBlank d = false := by
  unfold afterSpaced? at h
  split at h
  · next x t₁ hstrip =>
    split at h
    · next hx =>
      subst hx
      obtain ⟨b, rfl, hb, hc⟩ := Text.stripStart_eq_cons hstrip
      obtain ⟨b', rfl, hb', hd⟩ := Text.stripStart_eq_cons (Option.some.inj h)
      exact ⟨b, b', rfl, hb, hb', hc, hd⟩
    · cases h
  · cases h

/-- An end tag is read from its own text, in which no bracket opens behind the first. -/
theorem exists_consumes_afterEndTag? (hname : name ≠ [])
    (hletters : HasNoBracket name) (h : afterEndTag? name t = some rest) :
    ∃ a, t = '<' :: a ++ '>' :: rest ∧ '<' ∉ a ∧
      Consumes (afterEndTag? name) ('<' :: a ++ ['>']) := by
  unfold afterEndTag? at h
  split at h
  · next t =>
    obtain ⟨r, hslash, hrest⟩ := Option.bind_eq_some_iff.mp h
    obtain ⟨r', hword, hend⟩ := Option.bind_eq_some_iff.mp hrest
    obtain ⟨l, letters, rfl, hspelled, hconsumes⟩ := consumes_afterWord?_of_eq_some hword hname
    obtain ⟨b₁, b₂, rfl, hb₁, hb₂, hc, hl⟩ := of_afterSpaced?_eq_some hslash
    split at hend
    · next r hstrip =>
      obtain rfl := Option.some.inj hend
      obtain ⟨b₃, rfl, hb₃, -⟩ := Text.stripStart_eq_cons hstrip
      refine ⟨b₁ ++ '/' :: (b₂ ++ l :: (letters ++ b₃)), by simp, ?_, fun s ↦ ?_⟩
      · have hspelled := hletters.not_mem hspelled
        simp only [List.mem_append, List.mem_cons, not_or] at hspelled ⊢
        exact ⟨bracket_not_mem_of_blank hb₁, by decide, bracket_not_mem_of_blank hb₂, hspelled.1,
          hspelled.2, bracket_not_mem_of_blank hb₃⟩
      · have happend : '<' :: (b₁ ++ '/' :: (b₂ ++ l :: (letters ++ b₃))) ++ ['>'] ++ s =
            '<' :: (b₁ ++ '/' :: (b₂ ++ l :: (letters ++ (b₃ ++ '>' :: s)))) := by simp
        have hword := hconsumes (b₃ ++ '>' :: s)
        rw [List.cons_append] at hword
        rw [happend, afterEndTag?]
        simp only [afterSpaced?_append hb₁ hb₂ hc hl, Option.bind_eq_bind, Option.bind_some, hword,
          stripStart_append_cons hb₃ (by decide : Text.isBlank '>' = false)]
    · cases hend
  · cases h

/-- The content of an element is read up to the end of the first end tag, and this is the first
whatever follows: what stands before it begins no end tag that could reach beyond. -/
theorem exists_consumes_afterContent? (hname : name ≠ [])
    (hletters : HasNoBracket name) (h : afterContent? name t = some rest) :
    ∃ a, t = a ++ '>' :: rest ∧ '<' ∈ a ∧ Consumes (afterContent? name) (a ++ ['>']) := by
  induction t with
  | nil => cases h
  | cons c t ih =>
    rw [afterContent?] at h
    rcases Option.or_eq_some_iff.mp h with h | ⟨hnone, h⟩
    · obtain ⟨a, heq, -, hconsumes⟩ := exists_consumes_afterEndTag? hname hletters h
      refine ⟨'<' :: a, heq, List.mem_cons_self, fun s ↦ ?_⟩
      have hend := hconsumes s
      rw [List.cons_append, List.cons_append] at hend ⊢
      rw [afterContent?, hend, Option.some_or]
    · obtain ⟨a, rfl, hbracket, hconsumes⟩ := ih h
      refine ⟨c :: a, rfl, List.mem_cons_of_mem _ hbracket, fun s ↦ ?_⟩
      have hrest : afterEndTag? name (c :: (a ++ ['>'] ++ s)) = none := by
        rw [← Option.not_isSome_iff_eq_none]
        intro hsome
        obtain ⟨after, hafter⟩ := Option.isSome_iff_exists.mp hsome
        obtain ⟨e, heq, he, hends⟩ := exists_consumes_afterEndTag? hname hletters hafter
        obtain ⟨rfl, htail⟩ := List.cons.inj heq
        rw [List.append_assoc] at htail
        rcases List.append_eq_append_iff.mp htail with ⟨x, rfl, -⟩ | ⟨x, rfl, hx⟩
        · exact he (List.mem_append_left _ hbracket)
        · cases x with
          | nil => exact he (by simpa using hbracket)
          | cons d x =>
            obtain ⟨rfl, -⟩ := List.cons.inj hx
            have hend := hends (x ++ '>' :: rest)
            simp only [List.cons_append, List.append_assoc, List.nil_append] at hend hnone
            cases hnone.symm.trans hend
      rw [List.cons_append, List.cons_append, afterContent?, hrest, Option.none_or, hconsumes s]

theorem exists_consumes_tag? {inside : Text} (hname : name ≠ [])
    (h : tag? name t = some (inside, rest)) :
    ∃ a, t = a ++ rest ∧ ∀ s, tag? name (a ++ s) = some (inside, s) := by
  obtain ⟨hopening, hinside⟩ := tag?_eq_some_iff.mp h
  unfold afterOpening? at hopening
  split at hopening
  · next t =>
    obtain ⟨hword, hhead⟩ := Option.filter_eq_some_iff.mp hopening
    obtain ⟨l, letters, heq, -, hconsumes⟩ := consumes_afterWord?_of_eq_some hword hname
    obtain ⟨b, rfl, hb, hl⟩ := Text.stripStart_eq_cons heq
    refine ⟨'<' :: (b ++ l :: (letters ++ (inside ++ ['>']))), by simp, fun s ↦ ?_⟩
    have happend : '<' :: (b ++ l :: (letters ++ (inside ++ ['>']))) ++ s =
        '<' :: (b ++ l :: (letters ++ (inside ++ '>' :: s))) := by simp
    rw [happend, tag?_eq_some_iff, afterOpening?, stripStart_append_cons hb hl,
      ← List.cons_append, hconsumes]
    refine ⟨Option.filter_eq_some_iff.mpr ⟨rfl, ?_⟩, hinside⟩
    cases inside with
    | nil => exact hhead
    | cons c inside => exact hhead
  · cases hopening

theorem exists_consumes_afterElement? (hname : name ≠ [])
    (hletters : HasNoBracket name) (h : afterElement? name t = some rest) :
    ∃ a, t = a ++ '>' :: rest ∧ Consumes (afterElement? name) (a ++ ['>']) := by
  obtain ⟨⟨inside, r⟩, htag, hcontent⟩ := Option.bind_eq_some_iff.mp h
  obtain ⟨opening, rfl, hopening⟩ := exists_consumes_tag? hname htag
  obtain ⟨content, rfl, -, hconsumes⟩ := exists_consumes_afterContent? hname hletters hcontent
  refine ⟨opening ++ content, (List.append_assoc ..).symm, fun s ↦ ?_⟩
  rw [List.append_assoc, List.append_assoc, ← List.append_assoc content, afterElement?, hopening]
  exact hconsumes s

/-! ### Frames -/

/-- A text is a frame, from its opening tag to the first end tag. -/
def IsFrame (f : Text) : Prop := afterElement? "iframe" f = some []

theorem exists_consumes_frame (h : afterElement? "iframe" t = some rest) :
    ∃ a, t = a ++ '>' :: rest ∧ Consumes (afterElement? "iframe") (a ++ ['>']) :=
  exists_consumes_afterElement? (by decide) (by decide) h

theorem exists_isFrame (h : afterElement? "iframe" t = some rest) :
    ∃ f, t = f ++ rest ∧ IsFrame f := by
  obtain ⟨a, rfl, hconsumes⟩ := exists_consumes_frame h
  refine ⟨a ++ ['>'], by simp, ?_⟩
  have hf := hconsumes []
  rwa [List.append_nil] at hf

theorem IsFrame.consumes (h : IsFrame f) : Consumes (afterElement? "iframe") f := by
  obtain ⟨a, rfl, hconsumes⟩ := exists_consumes_frame h
  exact hconsumes

theorem IsFrame.getLast?_eq (h : IsFrame f) : f.getLast? = some '>' := by
  obtain ⟨a, rfl, -⟩ := exists_consumes_frame h
  exact List.getLast?_concat

theorem IsFrame.bracket_mem (h : IsFrame f) : '<' ∈ f := by
  by_contra hf
  have hnone : afterElement? "iframe" f = none := afterElement?_eq_none hf
  rw [h] at hnone
  cases hnone

/-- An address of the web on one of the hosts. -/
def IsAllowedAddress (hosts : List Text) (source : Text) : Prop :=
  ∃ url, Url.ofText? source = some url ∧ (url.scheme = "http" ∨ url.scheme = "https") ∧
    url.host ∈ hosts

/-- A frame whose first source is on one of the hosts. -/
def IsAllowed (hosts : List Text) (f : Text) : Prop :=
  IsFrame f ∧ ∃ source, firstSource? f = some source ∧ IsAllowedAddress hosts source

theorem frameFault?_eq_none_iff : frameFault? hosts f = none ↔
    ∃ source, firstSource? f = some source ∧ IsAllowedAddress hosts source := by
  unfold frameFault? IsAllowedAddress
  cases firstSource? f with
  | none => simp
  | some source =>
    simp only [Option.some.injEq, exists_eq_left']
    cases Url.ofText? source with
    | none => simp
    | some url =>
      simp only [Option.some.injEq, exists_eq_left']
      have hweb : (!(url.scheme == "http" || url.scheme == "https")) = true ↔
          ¬(url.scheme = "http" ∨ url.scheme = "https") := by
        rw [Bool.not_eq_true', ← Bool.not_eq_true, Bool.or_eq_true, beq_iff_eq, beq_iff_eq]
      split_ifs with hscheme hhost
      · exact ⟨False.elim, fun h ↦ absurd h.1 (hweb.mp hscheme)⟩
      · exact ⟨fun _ ↦ ⟨not_not.mp (mt hweb.mpr hscheme), List.contains_iff_mem.mp hhost⟩,
          fun _ ↦ rfl⟩
      · exact ⟨False.elim, fun h ↦ absurd (List.contains_iff_mem.mpr h.2) hhost⟩

theorem IsAllowed.of_isPlain {a : Attribute} (h : IsAllowed hosts f) (ha : IsPlain f a) :
    IsAllowedAddress hosts a.value := by
  obtain ⟨-, source, hsource, haddress⟩ := h
  obtain rfl := Option.some.inj (ha.firstSource?_eq.symm.trans hsource)
  exact haddress

/-- What is done with a frame does not depend on what stands behind it. -/
theorem frame_append (h : IsFrame f) (s : Text) : frame hosts (f ++ s) =
    some ⟨f.length, if (frameFault? hosts f).isSome then [] else f, frameFault? hosts f⟩ := by
  have hsize : (f ++ s).length - s.length = f.length := by simp
  rw [frame, h.consumes s]
  simp only [Option.bind_eq_bind, Option.bind_some, hsize, List.take_left]
  cases frameFault? hosts f <;> rfl

theorem exists_isFrame_of_frame {e : Edit} (h : frame hosts t = some e) :
    ∃ f s, t = f ++ s ∧ IsFrame f ∧
      e = ⟨f.length, if (frameFault? hosts f).isSome then [] else f, frameFault? hosts f⟩ := by
  obtain ⟨rest, hrest, -⟩ := Option.bind_eq_some_iff.mp h
  obtain ⟨f, rfl, hf⟩ := exists_isFrame hrest
  exact ⟨f, rest, rfl, hf, Option.some.inj (h.symm.trans (frame_append hf rest))⟩

/-! ### The pass over frames -/

/-- A text begins within another one, behind its beginning, and the two go on together until one of
them ends. -/
def BeginsIn (f g : Text) : Prop := ∃ a b, g = a ++ b ∧ a ≠ [] ∧ b ≠ [] ∧ (b <+: f ∨ f <+: b)

/-- A frame that is allowed, or begins within a frame of the text that is. -/
def IsAllowedIn (hosts : List Text) (t f : Text) : Prop :=
  IsAllowed hosts f ∨ ∃ g, g <:+: t ∧ IsAllowed hosts g ∧ BeginsIn f g

/-- A part of an allowed frame is still to be copied. -/
def IsWithin (hosts : List Text) (t : Text) (k : Nat) (s : Text) : Prop :=
  ∃ a b, a ≠ [] ∧ b.length = k ∧ b <+: s ∧ IsAllowed hosts (a ++ b) ∧ a ++ b <:+: t

theorem IsWithin.of_suffix (h : IsWithin hosts t k s) {u : Text} (ht : t <:+ u) :
    IsWithin hosts u k s := by
  obtain ⟨a, b, ha, hlength, hb, hallowed, hab⟩ := h
  exact ⟨a, b, ha, hlength, hb, hallowed, hab.trans ht.isInfix⟩

/-- When the first character of an allowed frame has been copied, the others are left. -/
theorem IsAllowed.isWithin (h : IsAllowed hosts g) (hg : c :: t = g ++ s) :
    IsWithin hosts (c :: t) (g.length - 1) t := by
  cases g with
  | nil => cases h.1
  | cons d g =>
    obtain ⟨rfl, rfl⟩ := List.cons.inj hg
    exact ⟨[c], g, List.cons_ne_nil _ _, rfl, List.prefix_append .., h,
      (List.prefix_append (c :: g) s).isInfix⟩

theorem IsWithin.tail (h : IsWithin hosts t (k + 1) (c :: s)) : IsWithin hosts t k s := by
  obtain ⟨a, b, ha, hlength, hb, hallowed, ht⟩ := h
  cases b with
  | nil => cases hlength
  | cons d b =>
    obtain ⟨rfl, hrest⟩ := List.cons_prefix_cons.mp hb
    refine ⟨a ++ [d], b, by simp, Nat.succ.inj hlength, hrest, ?_, ?_⟩
    · rwa [List.append_assoc]
    · rwa [List.append_assoc]

theorem IsWithin.isAllowedIn (h : IsWithin hosts t (k + 1) s) (hf : f <+: s) :
    IsAllowedIn hosts t f := by
  obtain ⟨a, b, ha, hlength, hb, hallowed, ht⟩ := h
  refine Or.inr ⟨_, ht, hallowed, a, b, rfl, ha, ?_, List.prefix_or_prefix_of_prefix hb hf⟩
  rintro rfl
  cases hlength

/-- Where the rule removes nothing, a frame in front is allowed. -/
theorem isAllowed_of_removal_eq_none (hnone : ∀ e, frame hosts t = some e → e.removal = none)
    (hf : IsFrame f) (ht : f <+: t) : IsAllowed hosts f := by
  obtain ⟨s, rfl⟩ := ht
  exact ⟨hf, frameFault?_eq_none_iff.mp (hnone _ (frame_append hf s))⟩

/-- Where no frame is being copied, a character is copied because no frame that would be removed
stands in front, or a frame is removed. -/
theorem markFrom_frame_cases (hosts : List Text) (kept : Bool) (c : Char) (m : Marked) :
    (∃ kept' k', markFrom (frame hosts) kept 0 (some c :: m) =
        some c :: markFrom (frame hosts) kept' k' m ∧ (kept' = true ∨ k' = 0) ∧
      (∀ f, IsFrame f → f <+: c :: textOf m → IsAllowed hosts f) ∧
      (kept' = true → IsWithin hosts (c :: textOf m) k' (textOf m))) ∨
    ∃ k', markFrom (frame hosts) kept 0 (some c :: m) =
      none :: none :: markFrom (frame hosts) false k' m := by
  rw [markFrom_zero]
  cases hedit : frame hosts (c :: textOf m) with
  | none =>
    refine Or.inl ⟨false, 0, rfl, Or.inr rfl, fun f ↦ ?_, fun h ↦ by cases h⟩
    exact isAllowed_of_removal_eq_none fun e he ↦ by cases hedit.symm.trans he
  | some e =>
    obtain ⟨g, s, hgs, hg, rfl⟩ := exists_isFrame_of_frame hedit
    cases hfault : frameFault? hosts g with
    | some fault => exact Or.inr ⟨g.length - 1, rfl⟩
    | none =>
      have hallowed : IsAllowed hosts g := ⟨hg, frameFault?_eq_none_iff.mp hfault⟩
      refine Or.inl ⟨true, g.length - 1, rfl, Or.inl rfl, fun f ↦ ?_, fun _ ↦ hallowed.isWithin hgs⟩
      refine isAllowed_of_removal_eq_none fun e he ↦ ?_
      obtain rfl := Option.some.inj (hedit.symm.trans he)
      exact hfault

/-- A frame that stands between two marks after the pass is allowed, or begins within one that is:
the rule was shown it where it begins, or passed over it. -/
theorem isAllowedIn_of_isRun_markFrom (hm : textOf m <:+ t)
    (hkept : kept = true → IsWithin hosts t k (textOf m))
    (hrun : IsRun (markFrom (frame hosts) kept k m) f) (hf : IsFrame f) :
    IsAllowedIn hosts t f := by
  induction m generalizing kept k with
  | nil =>
    have hnil : f = [] := by
      cases kept <;> cases k <;> simpa [markFrom, IsRun] using hrun
    subst hnil
    cases hf
  | cons x m ih =>
    cases x with
    | none =>
      rw [markFrom_none, isRun_none_cons_iff] at hrun
      exact ih hm hkept hrun
    | some c =>
      have hlater : textOf m <:+ t := (List.suffix_cons c _).trans hm
      cases k with
      | succ k =>
        cases kept with
        | true =>
          rcases isRun_cons_iff.mp hrun with hfirst | hrun
          · have hprefix := (isFirstRun_cons_of_markFrom (Or.inl rfl) hfirst).isPrefix
            exact (hkept rfl).isAllowedIn hprefix
          · exact ih hlater (fun _ ↦ (hkept rfl).tail) hrun
        | false => exact ih hlater (fun h ↦ by cases h) hrun
      | zero =>
        rcases markFrom_frame_cases hosts kept c m with
          ⟨kept', k', heq, hcopies, hallowed, hwithin⟩ | ⟨k', heq⟩
        · rw [heq] at hrun
          rcases isRun_cons_iff.mp hrun with hfirst | hrun
          · exact Or.inl (hallowed f hf (isFirstRun_cons_of_markFrom hcopies hfirst).isPrefix)
          · exact ih hlater (fun h ↦ (hwithin h).of_suffix hm) hrun
        · rw [heq, isRun_none_cons_iff, isRun_none_cons_iff] at hrun
          exact ih hlater (fun h ↦ by cases h) hrun

/-! ### Cleaned texts -/

/-- A brace stands behind a backslash. -/
def HasEscapedBrace (f : Text) : Prop := ∃ c, isBrace c ∧ ['\\', c] <:+: f

theorem HasEscapedBrace.cons (h : HasEscapedBrace s) : HasEscapedBrace (c :: s) := by
  obtain ⟨d, hd, hs⟩ := h
  exact ⟨d, hd, hs.trans (List.suffix_cons c s).isInfix⟩

/-- What is seen without an escaped brace is seen as it is, if it does not end at a backslash. -/
theorem Shows.isPrefix (h : Shows t s) (hnone : ¬HasEscapedBrace s)
    (hlast : s.getLast? ≠ some '\\') : s <+: t := by
  induction h with
  | done => exact List.nil_prefix
  | @same c t s h ih =>
    rw [List.cons_prefix_cons]
    refine ⟨rfl, ih (mt .cons hnone) fun hs ↦ ?_⟩
    exact hlast (by rw [List.getLast?_cons, hs]; rfl)
  | @escape c t s hc h ih =>
    cases s with
    | nil => exact absurd rfl hlast
    | cons d s =>
      have hprefix : d :: s <+: c :: t := by
        refine ih (mt .cons hnone) ?_
        rwa [List.getLast?_cons_cons] at hlast
      obtain ⟨rfl, -⟩ := List.cons_prefix_cons.mp hprefix
      exact absurd ⟨d, hc, (List.prefix_append ['\\', d] s).isInfix⟩ hnone

/-- The text in which frames are looked at. -/
def frameText (t : Text) : Text := (applyRules elementRules (t.filter (· != '\x00'))).1

/-- The rule for frames, and the rules that are applied after it. -/
def frameRules (hosts : List Text) : List Rule := frame (allowedHosts hosts) :: attributeRules

theorem isAccounting_of_mem_frameRules {rule : Rule} (h : rule ∈ frameRules hosts) :
    IsAccounting rule := by
  have hmem : rule ∈ rules hosts := rules_eq_append hosts ▸ List.mem_append_right _ h
  exact isAccounting_of_mem_rules hmem

theorem applyRules_append (rs rs' : List Rule) (t : Text) : applyRules (rs ++ rs') t =
    ((applyRules rs' (applyRules rs t).1).1,
      (applyRules rs t).2 ++ (applyRules rs' (applyRules rs t).1).2) := by
  induction rs generalizing t with
  | nil => rfl
  | cons rule rs ih =>
    rw [List.cons_append, applyRules, applyRules]
    simp only [ih, List.append_assoc]

theorem sanitize_eq_frameRules (hosts : List Text) (t : Text) : sanitize hosts t =
    (escapeBraces (applyRules (frameRules hosts) (frameText t)).1,
      (applyRules elementRules (t.filter (· != '\x00'))).2 ++
        (applyRules (frameRules hosts) (frameText t)).2) := by
  rw [sanitize_eq, rules_eq_append, applyRules_append]
  simp only [frameText, frameRules]

theorem isAllowedIn_of_isRun_marked (hrun : IsRun (marked (frameRules hosts) t) f)
    (hf : IsFrame f) : IsAllowedIn (allowedHosts hosts) t f := by
  have hattributes : ∀ rule ∈ attributeRules, IsCleaning rule := fun _ h ↦
    (isRemoval_of_mem (List.mem_append_right _ h)).toIsCleaning
  rcases isRun_of_isRun_markRules hattributes hrun with hrun | ⟨opening, hopening, hpart⟩
  · have htext : textOf (t.map some) <:+ t := by simp
    exact isAllowedIn_of_isRun_markFrom htext (fun h ↦ by cases h) hrun hf
  · exact absurd (hpart.subset hf.bracket_mem) hopening.isHarmless.no_bracket

/-- **The frames of a cleaned text.** From the text in which frames are looked at one frame, address
or event handler after the other is removed, each of which a rule has found and is accounted for
behind the removals of elements, and on either side of what is left of it a mark is put. The cleaned
text is that text with these marks, with backslashes before some braces. A frame in it that reaches
across no mark and has no escaped brace has its first source on an allowed host, and with it the
attribute of its tag if this is written plainly; or it begins within such a frame of the text in
which frames are looked at. -/
theorem frames_left (hosts : List Text) (t : Text) : ∃ removals,
    (sanitize hosts t).2 = (applyRules elementRules (t.filter (· != '\x00'))).2 ++ removals ∧
    MarksAll (frameRules hosts) removals ((frameText t).map some)
      (marked (frameRules hosts) (frameText t)) ∧
    ∃ m, Escapes (marked (frameRules hosts) (frameText t)) m ∧ textOf m = (sanitize hosts t).1 ∧
      m.count none = 2 * removals.length ∧
      ∀ ⦃f : Text⦄, IsRun m f → IsFrame f → ¬HasEscapedBrace f →
        (IsAllowed (allowedHosts hosts) f ∧
          ∀ a, IsPlain f a → IsAllowedAddress (allowedHosts hosts) a.value) ∨
        ∃ g, g <:+: frameText t ∧ IsAllowed (allowedHosts hosts) g ∧ BeginsIn f g := by
  have hrules : ∀ rule ∈ frameRules hosts, IsAccounting rule :=
    fun _ ↦ isAccounting_of_mem_frameRules
  obtain ⟨m, hescapes, htext, hcount⟩ := exists_escapes_marked hrules (frameText t)
  rw [sanitize_eq_frameRules]
  simp only
  refine ⟨_, rfl, marksAll_marked hrules _, m, hescapes, htext, hcount, fun f hrun hf hbraces ↦ ?_⟩
  -- No brace of the frame has been escaped, so it stood there before.
  obtain ⟨v, hv, hshows⟩ := hescapes.exists_isRun hrun
  have hseen : f <+: v := hshows.isPrefix hbraces (by simp [hf.getLast?_eq])
  have hbefore : IsRun (marked (frameRules hosts) (frameText t)) f :=
    (hseen.map some).isInfix.trans hv
  refine (isAllowedIn_of_isRun_marked hbefore hf).imp_left fun hallowed ↦ ?_
  exact ⟨hallowed, fun a ↦ hallowed.of_isPlain⟩

end ApiSite.Sanitize
