import ApiSite.Sanitize
import ApiSite.Proofs.Text

/-!
# The attributes of an opening tag

An opening tag is read here as a browser reads it (`attributes`): names stand between blanks, a
value may be quoted or not, and of several attributes of one name the first counts
(`sourceAttribute?`). The sanitizer does not read tags in this way. It takes the first place of a
frame at which the word `src` has a quoted value behind it (`firstSource?`), whether this is an
attribute, the end of the name of another one, or part of a value.

The two agree on frames that are written plainly (`IsPlain`): the source is an attribute with a
quoted value, in which there are no quotation marks, and the word `src` does not stand before it
(`IsPlain.firstSource?_eq`). Reading goes through a tag character by character, and each mode knows
how the attribute that is being read has been spelled so far (`Mode.Agrees`).
-/

set_option autoImplicit false

namespace ApiSite.Sanitize

/-! ### Reading -/

/-- An attribute of an opening tag. -/
structure Attribute where
  name : Text
  value : Text
  /-- The quotation mark around the value, if there is one. -/
  quote : Option Char
  /-- The text from the name of the attribute on. -/
  place : Text
  deriving DecidableEq, Repr

/-- A blank between attributes. -/
def isTagBlank (c : Char) : Bool := ([' ', '\t', '\n', '\x0c', '\r'] : List Char).contains c

/-- What is being read of a tag: an attribute has a place from which on it stands, a name, and a
value. -/
inductive Mode where
  | before
  | inName (place name : Text)
  | afterName (place name : Text)
  | beforeValue (place name : Text)
  | quoted (place name value : Text) (quote : Char)
  | unquoted (place name value : Text)
  | closed
  deriving DecidableEq, Repr

/-- Reads a character behind which `rest` stands: the attributes that it ends, and what is read
next. -/
def step : Mode → Char → Text → List Attribute × Mode
  | .before, c, rest =>
    if isTagBlank c || c == '/' then ([], .before)
    else if c == '>' then ([], .closed)
    else ([], .inName (c :: rest) [c])
  | .inName place name, c, _ =>
    if isTagBlank c then ([], .afterName place name)
    else if c == '/' then ([⟨name, [], none, place⟩], .before)
    else if c == '>' then ([⟨name, [], none, place⟩], .closed)
    else if c == '=' then ([], .beforeValue place name)
    else ([], .inName place (name ++ [c]))
  | .afterName place name, c, rest =>
    if isTagBlank c then ([], .afterName place name)
    else if c == '/' then ([⟨name, [], none, place⟩], .before)
    else if c == '>' then ([⟨name, [], none, place⟩], .closed)
    else if c == '=' then ([], .beforeValue place name)
    else ([⟨name, [], none, place⟩], .inName (c :: rest) [c])
  | .beforeValue place name, c, _ =>
    if isTagBlank c then ([], .beforeValue place name)
    else if isQuote c then ([], .quoted place name [] c)
    else if c == '>' then ([⟨name, [], none, place⟩], .closed)
    else ([], .unquoted place name [c])
  | .quoted place name value quote, c, _ =>
    if c == quote then ([⟨name, value, some quote, place⟩], .before)
    else ([], .quoted place name (value ++ [c]) quote)
  | .unquoted place name value, c, _ =>
    if isTagBlank c then ([⟨name, value, none, place⟩], .before)
    else if c == '>' then ([⟨name, value, none, place⟩], .closed)
    else ([], .unquoted place name (value ++ [c]))
  | .closed, _, _ => ([], .closed)

/-- The attributes that a text ends, given what is being read. -/
def attributesFrom : Mode → Text → List Attribute
  | _, [] => []
  | mode, c :: t => (step mode c t).1 ++ attributesFrom (step mode c t).2 t

/-- What follows the name of a tag in front. -/
def afterTagName? (name : Text) : Text → Option Text
  | '<' :: t => Text.afterWord? name (Text.stripStart t)
  | _ => none

/-- The attributes of the opening tag in front. -/
def attributes (name t : Text) : List Attribute :=
  (afterTagName? name t).elim [] (attributesFrom .before)

/-- The attribute `src` of the frame in front. -/
def sourceAttribute? (t : Text) : Option Attribute :=
  (attributes "iframe" t).find? fun a ↦ a.name.map Char.toLower == "src".toList

variable {a : Attribute} {c d q : Char} {mode : Mode} {f t : Text}

/-! ### How attributes are spelled -/

/-- An attribute stands at its place with a quoted value. -/
def Attribute.IsSpelled (a : Attribute) (q : Char) : Prop :=
  isQuote q = true ∧ q ∉ a.value ∧ ∃ b b' rest, (∀ c ∈ b, isTagBlank c = true) ∧
    (∀ c ∈ b', isTagBlank c = true) ∧
    a.place = a.name ++ (b ++ '=' :: (b' ++ q :: (a.value ++ q :: rest)))

/-- What is being read stands in front of a text, from its place on. -/
def Mode.Agrees : Mode → Text → Prop
  | .before, _ | .closed, _ | .unquoted .., _ => True
  | .inName place name, t => place = name ++ t
  | .afterName place name, t => ∃ b, (∀ c ∈ b, isTagBlank c = true) ∧ place = name ++ (b ++ t)
  | .beforeValue place name, t => ∃ b b', (∀ c ∈ b, isTagBlank c = true) ∧
    (∀ c ∈ b', isTagBlank c = true) ∧ place = name ++ (b ++ '=' :: (b' ++ t))
  | .quoted place name value q, t => isQuote q = true ∧ q ∉ value ∧
    ∃ b b', (∀ c ∈ b, isTagBlank c = true) ∧ (∀ c ∈ b', isTagBlank c = true) ∧
      place = name ++ (b ++ '=' :: (b' ++ q :: (value ++ t)))

theorem Mode.Agrees.step (h : mode.Agrees (c :: t)) : (step mode c t).2.Agrees t ∧
    ∀ a ∈ (Sanitize.step mode c t).1, ∀ q, a.quote = some q → a.IsSpelled q := by
  cases mode with
  | before =>
    simp only [Sanitize.step]
    split_ifs
    · exact ⟨trivial, by simp⟩
    · exact ⟨trivial, by simp⟩
    · exact ⟨rfl, by simp⟩
  | inName place name =>
    have hplace : place = name ++ c :: t := h
    simp only [Sanitize.step]
    split_ifs with hblank
    · exact ⟨⟨[c], by simpa using hblank, by simpa using hplace⟩, by simp⟩
    · exact ⟨trivial, by simp⟩
    · exact ⟨trivial, by simp⟩
    · next heq =>
      obtain rfl := beq_iff_eq.mp heq
      exact ⟨⟨[], [], by simp, by simp, by simpa using hplace⟩, by simp⟩
    · exact ⟨by simpa [Agrees] using hplace, by simp⟩
  | afterName place name =>
    obtain ⟨b, hb, hplace⟩ := h
    simp only [Sanitize.step]
    split_ifs with hblank
    · refine ⟨⟨b ++ [c], ?_, by simpa using hplace⟩, by simp⟩
      simp only [List.mem_append, List.mem_singleton]
      rintro d (hd | rfl)
      · exact hb d hd
      · exact hblank
    · exact ⟨trivial, by simp⟩
    · exact ⟨trivial, by simp⟩
    · next heq =>
      obtain rfl := beq_iff_eq.mp heq
      exact ⟨⟨b, [], hb, by simp, by simpa using hplace⟩, by simp⟩
    · exact ⟨rfl, by simp⟩
  | beforeValue place name =>
    obtain ⟨b, b', hb, hb', hplace⟩ := h
    simp only [Sanitize.step]
    split_ifs with hblank hquote
    · refine ⟨⟨b, b' ++ [c], hb, ?_, by simpa using hplace⟩, by simp⟩
      simp only [List.mem_append, List.mem_singleton]
      rintro d (hd | rfl)
      · exact hb' d hd
      · exact hblank
    · exact ⟨⟨hquote, List.not_mem_nil, b, b', hb, hb', by simpa using hplace⟩, by simp⟩
    · exact ⟨trivial, by simp⟩
    · exact ⟨trivial, by simp⟩
  | quoted place name value quote =>
    obtain ⟨hquote, hvalue, b, b', hb, hb', hplace⟩ := h
    simp only [Sanitize.step]
    split_ifs with heq
    · obtain rfl := beq_iff_eq.mp heq
      refine ⟨trivial, ?_⟩
      simp only [List.mem_singleton]
      rintro a rfl q hq
      obtain rfl := Option.some.inj hq
      exact ⟨hquote, hvalue, b, b', t, hb, hb', hplace⟩
    · refine ⟨⟨hquote, ?_, b, b', hb, hb', by simpa using hplace⟩, by simp⟩
      rw [List.mem_append, List.mem_singleton, not_or]
      exact ⟨hvalue, fun hq ↦ heq (beq_iff_eq.mpr hq.symm)⟩
  | unquoted place name value =>
    simp only [Sanitize.step]
    split_ifs
    · exact ⟨trivial, by simp⟩
    · exact ⟨trivial, by simp⟩
    · exact ⟨trivial, by simp⟩
  | closed => exact ⟨trivial, by simp [Sanitize.step]⟩

theorem isSpelled_of_mem_attributesFrom (h : mode.Agrees t) (ha : a ∈ attributesFrom mode t)
    (hq : a.quote = some q) : a.IsSpelled q := by
  induction t generalizing mode with
  | nil => cases ha
  | cons c t ih =>
    obtain ⟨hagrees, hspelled⟩ := h.step
    rcases List.mem_append.mp ha with ha | ha
    · exact hspelled a ha q hq
    · exact ih hagrees ha

/-! ### Sources -/

/-- The first place at which a word stands, and what follows. -/
def firstPlace? (word : Text) : Text → Option Text
  | [] => none
  | c :: t => if (Text.afterWord? word (c :: t)).isSome then some (c :: t) else firstPlace? word t

/-- A frame with its source written plainly: it is a quoted attribute without quotation marks in its
value, and the word for sources does not stand before it. -/
structure IsPlain (f : Text) (a : Attribute) : Prop where
  source : sourceAttribute? f = some a
  isQuoted : a.quote.isSome
  value : ∀ c ∈ a.value, isQuote c = false
  place : firstPlace? "src" f = some a.place

theorem stripStart_append_cons {b : Text} (hb : ∀ x ∈ b, Text.isBlank x = true)
    (hc : Text.isBlank c = false) (rest : Text) : Text.stripStart (b ++ c :: rest) = c :: rest := by
  rw [Text.stripStart, Text.trimStart, List.dropWhile_append_of_pos hb,
    List.dropWhile_cons_of_neg (by rw [hc]; exact Bool.false_ne_true)]

/-- A character is found among blanks. -/
theorem afterSpaced?_append {b b' : Text} (hb : ∀ x ∈ b, Text.isBlank x = true)
    (hb' : ∀ x ∈ b', Text.isBlank x = true) (hc : Text.isBlank c = false)
    (hd : Text.isBlank d = false) (rest : Text) :
    afterSpaced? c (b ++ c :: (b' ++ d :: rest)) = some (d :: rest) := by
  unfold afterSpaced?
  rw [stripStart_append_cons hb hc]
  simp only [if_true, stripStart_append_cons hb' hd]

theorem isBlank_of_isTagBlank (h : isTagBlank c = true) : Text.isBlank c = true := by
  have htable : ([' ', '\t', '\n', '\x0c', '\r'] : List Char).all Text.isBlank = true := by decide
  exact List.all_eq_true.mp htable c (List.contains_iff_mem.mp h)

theorem afterWord?_append {word name : Text} (hname : name.map Char.toLower = word) (rest : Text) :
    Text.afterWord? word (name ++ rest) = some rest := by
  induction name generalizing word with
  | nil =>
    subst hname
    rfl
  | cons c name ih =>
    subst hname
    have hletter : Text.sameLetter c.toLower c = true := by simp [Text.sameLetter]
    rw [List.map_cons, List.cons_append, Text.afterWord?, if_pos hletter, ih rfl]

theorem not_isBlank_of_isQuote (h : isQuote q = true) : Text.isBlank q = false := by
  rw [isQuote, Bool.or_eq_true, beq_iff_eq, beq_iff_eq] at h
  rcases h with rfl | rfl <;> decide

/-- The value of an attribute is read where it is spelled. -/
theorem source?_of_isSpelled (h : a.IsSpelled q) (hname : a.name.map Char.toLower = "src".toList)
    (hvalue : ∀ c ∈ a.value, isQuote c = false) : source? a.place = some a.value := by
  obtain ⟨hquote, -, b, b', rest, hb, hb', hplace⟩ := h
  have hspaced : afterSpaced? '=' (b ++ '=' :: (b' ++ q :: (a.value ++ q :: rest))) =
      some (q :: (a.value ++ q :: rest)) :=
    afterSpaced?_append (fun c hc ↦ isBlank_of_isTagBlank (hb c hc))
      (fun c hc ↦ isBlank_of_isTagBlank (hb' c hc)) (by decide) (not_isBlank_of_isQuote hquote) _
  have htake : (a.value ++ q :: rest).takeWhile (fun c ↦ !isQuote c) = a.value :=
    Text.takeWhile_append_of_head? (fun c hc ↦ by simp [hvalue c hc]) fun
      | _, rfl => by simp [hquote]
  rw [hplace, source?, afterWord?_append hname]
  simp only [Option.bind_eq_bind, Option.bind_some, hspaced, hquote, if_true, htake]
  simp

theorem firstSource?_of_firstPlace? {place value : Text}
    (hplace : firstPlace? "src" t = some place) (hsource : source? place = some value) :
    firstSource? t = some value := by
  induction t with
  | nil => cases hplace
  | cons c t ih =>
    rw [firstPlace?] at hplace
    split at hplace
    · obtain rfl := Option.some.inj hplace
      rw [firstSource?, hsource, Option.some_or]
    · next hword =>
      have hnone : source? (c :: t) = none := by
        rw [source?, Option.not_isSome_iff_eq_none.mp hword]
        rfl
      rw [firstSource?, hnone, Option.none_or, ih hplace]

/-- The source that is looked at is that of the tag, where this is written plainly. -/
theorem IsPlain.firstSource?_eq (h : IsPlain f a) : firstSource? f = some a.value := by
  obtain ⟨q, hq⟩ := Option.isSome_iff_exists.mp h.isQuoted
  have hmem := List.mem_of_find?_eq_some h.source
  have hname := List.find?_some h.source
  have hspelled : a.IsSpelled q := by
    unfold attributes at hmem
    cases htag : afterTagName? "iframe" f with
    | none =>
      rw [htag] at hmem
      cases hmem
    | some t =>
      rw [htag] at hmem
      have hbefore : Mode.before.Agrees t := trivial
      exact isSpelled_of_mem_attributesFrom hbefore hmem hq
  exact firstSource?_of_firstPlace? h.place
    (source?_of_isSpelled hspelled (beq_iff_eq.mp hname) h.value)

/-- A frame that is written plainly. -/
example : IsPlain "<iframe width=1 src=\"b\"></iframe>"
    ⟨"src", "b", some '"', "src=\"b\"></iframe>"⟩ :=
  ⟨by decide, rfl, List.forall_mem_singleton.mpr rfl, by decide⟩

/-- A frame whose first source is not that of its tag. -/
example :
    let f : Text := "<iframe data-src=\"a\" src=\"b\"></iframe>"
    firstSource? f = some ("a" : Text) ∧
      (sourceAttribute? f).map Attribute.value = some ("b" : Text) := by
  decide

end ApiSite.Sanitize
