import ApiSite.Proofs.Signature.Links

/-!
# The tags of a signature

A signature is read here tag by tag, with no regard to how it was written (`isNested`): each opening
bracket has to start one of the tags that signatures have, each closing tag has to fit the element
that was opened last, no element may be left open, and no bracket may stand outside of tags or in
the value of an attribute.

A piece of markup that opens and closes its own elements does not change what is read behind it,
whatever elements are open around it (`IsClosed`). Characters are escaped, so this holds of them; an
element has such pieces between its tags, so it holds of elements. Hence no name, modifier, bound,
default or value can bring a tag into a signature, however it is spelled (`isNested_declaration`);
only addresses stand in a tag as they are.
-/

set_option autoImplicit false

namespace ApiSite.Signature

open Model

variable {P : Text → Prop} {site : Site} {s t v url : Text}

/-! ### Reading tags -/

/-- The names of the elements of signatures. -/
inductive TagName where
  | span
  | link
  deriving DecidableEq, Repr

/-- A tag of a signature. -/
inductive Tag where
  | opening (name : TagName)
  | closing (name : TagName)

/-- What follows the opening tag of a span, which has to be of one of the classes. -/
def openingSpan? (t : Text) : Option Text := do
  let rest ← Text.after? "<span class=\"" t
  let className := rest.takeWhile (· != '"')
  let after ← Text.after? "\">" (rest.drop className.length)
  if className ∈ spanClasses then some after else none

/-- What follows the opening tag of a link to a type, whose address has no brackets. -/
def openingLink? (t : Text) : Option Text := do
  let (address, after) ← typeLink? t
  if '<' ∈ address ∨ '>' ∈ address then none else some after

/-- The tag in front of a text, and what follows it. -/
def tag? (t : Text) : Option (Tag × Text) :=
  ((openingSpan? t).map (Tag.opening .span, ·)).or <|
    ((openingLink? t).map (Tag.opening .link, ·)).or <|
      ((Text.after? "</span>" t).map (Tag.closing .span, ·)).or
        ((Text.after? "</a>" t).map (Tag.closing .link, ·))

/-- Whether every bracket of a text belongs to a tag of a signature, and the tags close what was
opened before and not closed yet, the last one first. The counter says how many characters of a tag
are still to be passed over. -/
def isNestedFrom : (unclosed : List TagName) → Nat → Text → Bool
  | unclosed, _, [] => unclosed.isEmpty
  | unclosed, k + 1, _ :: t => isNestedFrom unclosed k t
  | unclosed, 0, c :: t =>
    if c = '<' then
      match tag? (c :: t) with
      | some (.opening name, rest) => isNestedFrom (name :: unclosed) (t.length - rest.length) t
      | some (.closing name, rest) =>
        unclosed.head? == some name && isNestedFrom unclosed.tail (t.length - rest.length) t
      | none => false
    else c != '>' && isNestedFrom unclosed 0 t

/-- Whether every bracket of a text belongs to a tag of a signature, and the tags are balanced and
properly nested. -/
def isNested (t : Text) : Bool := isNestedFrom [] 0 t

example : isNested "<span class=\"kw\">on</span> <a href=\"/x\" class=\"type-link\">A</a>?" := by
  decide

example : ¬isNested "<span class=\"kw\"><a href=\"/x\" class=\"type-link\">A</span></a>" := by
  decide

example : ¬isNested "<span class=\"type\">Map<String></span>" := by decide

theorem isNestedFrom_append (unclosed : List TagName) (s t : Text) :
    isNestedFrom unclosed s.length (s ++ t) = isNestedFrom unclosed 0 t := by
  induction s with
  | nil => rfl
  | cons c s ih => exact ih

/-- A tag is passed over as a whole. -/
theorem isNestedFrom_opening {name : TagName} (h : tag? ('<' :: s ++ t) = some (.opening name, t))
    (unclosed : List TagName) :
    isNestedFrom unclosed 0 ('<' :: s ++ t) = isNestedFrom (name :: unclosed) 0 t := by
  have hlength : (s ++ t).length - t.length = s.length := by simp
  rw [List.cons_append] at h ⊢
  rw [isNestedFrom, if_pos rfl, h]
  simp only [hlength, isNestedFrom_append]

theorem isNestedFrom_closing {name : TagName} (h : tag? ('<' :: s ++ t) = some (.closing name, t))
    (unclosed : List TagName) :
    isNestedFrom (name :: unclosed) 0 ('<' :: s ++ t) = isNestedFrom unclosed 0 t := by
  rw [List.cons_append] at h ⊢
  rw [isNestedFrom, if_pos rfl, h]
  simp [isNestedFrom_append]

/-! ### The tags of elements -/

namespace Element

def tagName : Element → TagName
  | span _ => .span
  | link _ => .link

theorem tag?_opening {e : Element} (he : e.IsKnown P)
    (hurl : ∀ url, P url → '"' ∉ url ∧ '<' ∉ url ∧ '>' ∉ url) (t : Text) :
    tag? (e.opening ++ t) = some (.opening e.tagName, t) := by
  cases e with
  | span className =>
    have hquote : ∀ c ∈ spanClasses, '"' ∉ c := by decide
    have hopening : openingSpan? ((span className).opening ++ t) = some t := by
      have hvalue : (className ++ ("\">".toList ++ t)).takeWhile (· != '"') = className :=
        Text.takeWhile_append_stop (hquote className he)
      have hend : Text.after? "\">" ("\">".toList ++ t) = some t := rfl
      rw [opening_span_append, openingSpan?, Text.after?_append]
      simp only [Option.bind_eq_bind, Option.bind_some, hvalue, List.drop_left, hend]
      exact if_pos he
    rw [tag?, hopening]
    rfl
  | link url =>
    obtain ⟨hquote, hopen, hclose⟩ := hurl url he
    have hspan : openingSpan? ((link url).opening ++ t) = none := rfl
    have hopening : openingLink? ((link url).opening ++ t) = some t := by
      have hlink : typeLink? ((link url).opening ++ t) = some (url, t) :=
        typeLink?_linkOpening hquote t
      rw [openingLink?, hlink]
      exact if_neg (not_or.mpr ⟨hopen, hclose⟩)
    rw [tag?, hspan, hopening]
    rfl

theorem tag?_closing (e : Element) (t : Text) :
    tag? (e.closing ++ t) = some (.closing e.tagName, t) := by
  cases e <;> rfl

theorem exists_opening_eq (e : Element) : ∃ rest, e.opening = '<' :: rest := by
  cases e <;> exact ⟨_, rfl⟩

theorem exists_closing_eq (e : Element) : ∃ rest, e.closing = '<' :: rest := by
  cases e <;> exact ⟨_, rfl⟩

end Element

/-! ### Pieces of markup -/

/-- A piece of markup closes what it opens, and nothing else. -/
def IsClosed (s : Text) : Prop :=
  ∀ unclosed t, isNestedFrom unclosed 0 (s ++ t) = isNestedFrom unclosed 0 t

theorem IsClosed.append (hs : IsClosed s) (ht : IsClosed t) : IsClosed (s ++ t) := by
  intro unclosed rest
  rw [List.append_assoc, hs, ht]

theorem isClosed_of_not_mem (hopen : '<' ∉ s) (hclose : '>' ∉ s) : IsClosed s := by
  induction s with
  | nil => exact fun _ _ ↦ rfl
  | cons c s ih =>
    have hc : c ≠ '<' := (List.ne_of_not_mem_cons hopen).symm
    have hc' : (c != '>') = true := bne_iff_ne.mpr (List.ne_of_not_mem_cons hclose).symm
    intro unclosed t
    rw [List.cons_append, isNestedFrom, if_neg hc, hc', Bool.true_and]
    exact ih (List.not_mem_of_not_mem_cons hopen) (List.not_mem_of_not_mem_cons hclose) unclosed t

theorem isClosed_escapeChar (c : Char) : IsClosed (escapeChar c) :=
  isClosed_of_not_mem (brackets_not_mem_escapeChar c).1 (brackets_not_mem_escapeChar c).2

theorem isClosed_element {e : Element} (he : e.IsKnown P)
    (hurl : ∀ url, P url → '"' ∉ url ∧ '<' ∉ url ∧ '>' ∉ url) (hs : IsClosed s) :
    IsClosed (e.opening ++ (s ++ e.closing)) := by
  intro unclosed t
  have hopening := e.tag?_opening he hurl (s ++ (e.closing ++ t))
  have hclosing := e.tag?_closing t
  obtain ⟨start, hstart⟩ := e.exists_opening_eq
  obtain ⟨stop, hstop⟩ := e.exists_closing_eq
  rw [hstart] at hopening
  rw [hstop] at hclosing
  rw [List.append_assoc, List.append_assoc, hstart, isNestedFrom_opening hopening, hs, hstop,
    isNestedFrom_closing hclosing]

theorem Shows.isClosed (hs : Shows P s v)
    (hurl : ∀ url, P url → '"' ∉ url ∧ '<' ∉ url ∧ '>' ∉ url) : IsClosed s := by
  induction hs with
  | nil => exact fun _ _ ↦ rfl
  | char c _ ih => exact (isClosed_escapeChar c).append ih
  | element e he _ _ hinner hrest =>
    have h := (isClosed_element he hurl hinner).append hrest
    rwa [List.append_assoc, List.append_assoc] at h

/-- **Nothing breaks into a signature.** If no address has a quotation mark or a bracket, then in
every signature, whatever the model's texts are and however wide it may be, each opening bracket
starts a tag of a span of a known class or of a link to a type, the tags are balanced and properly
nested, and there are no other brackets. -/
theorem isNested_declaration
    (hurl : ∀ url, IsPublicAddress site url → '"' ∉ url ∧ '<' ∉ url ∧ '>' ∉ url)
    (hs : IsDeclaration site s) : isNested s = true := by
  obtain ⟨v, hshows⟩ := isMarkup_of_isDeclaration hasUrls_isPublicAddress hs
  have hclosed := hshows.isClosed hurl [] []
  rw [List.append_nil] at hclosed
  exact hclosed

/-- A class whose texts are spelled like tags and entities, with a bound that has a page. -/
def hostileClass : Container where
  name := "</span><script>"
  kind := "class"
  modifiers := ["\"><b>", "final"]
  typeParameters := [⟨"T&lt;", some (.mk "Base<'" [] true .null .null (some (.container 0 0 1)))⟩]

def hostileSite : Site :=
  let library : Library :=
    { name := "kit", dirName := "kit"
      containers := [hostileClass, { name := "Base", kind := "class" }] }
  let model : Model := ⟨[{ name := "kit", libraries := [library] }], [], []⟩
  ⟨model, (Location.build ⟨[], [], [], []⟩ model.entities).1, .of [] [], [], 80, none⟩

theorem isNested_declaration_hostile :
    (∀ url, IsPublicAddress hostileSite url → '"' ∉ url ∧ '<' ∉ url ∧ '>' ∉ url) ∧
    IsDeclaration hostileSite (container hostileSite hostileClass) ∧
    typeLinks (container hostileSite hostileClass) = ["/api/kit/Base".toList] ∧
    isNested (container hostileSite hostileClass) = true := by
  have hurl : ∀ url, IsPublicAddress hostileSite url → '"' ∉ url ∧ '<' ∉ url ∧ '>' ∉ url := by
    rintro url ⟨x, hx, -, hurl⟩
    have hall : ∀ x ∈ hostileSite.model.allEntities, ∀ url ∈ hostileSite.location.url? x,
        '"' ∉ url ∧ '<' ∉ url ∧ '>' ∉ url := by decide +kernel
    exact hall x (Entity.isIn_iff_mem_allEntities.mp hx) url hurl
  have hlinks : typeLinks (container hostileSite hostileClass) = ["/api/kit/Base".toList] := by
    decide +kernel
  exact ⟨hurl, .container _, hlinks, isNested_declaration hurl (.container _)⟩

end ApiSite.Signature
