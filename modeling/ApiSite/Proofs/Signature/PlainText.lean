import ApiSite.Proofs.Signature.Elements

/-!
# What a reader sees of a signature

The length of a signature is measured without its tags, with the entities in it decoded
(`shownLength`). What is left without the tags is the escaped form of what a reader sees
(`substitute_dropTag`), as long as no address ends a tag early. Entities are decoded one after the
other, ampersands before the number of their character (`entities`). So decoding what was escaped
gives it back, except that the reference `&#38;`, where it is spelled out, becomes an ampersand in
its turn (`unescape_escape`).

A type without ampersands in its names therefore is as long as it is displayed, however deep its
arguments are, and whether its names are links or not. Parameters go on one line if what a reader
sees of them fits; this is what is measured exactly if `&#38;` is not spelled out in it
(`shown_typeMarkup`).
-/

set_option autoImplicit false

namespace ApiSite

namespace Text

variable {old new t : Text}

/-! ### Replacements that shorten -/

theorem replace_eq_self_of_absent (h : ¬old <:+: t) : replace old new t = t := by
  rw [replace]
  induction t with
  | nil => rfl
  | cons c t ih =>
    obtain ⟨hstart, hlater⟩ := not_or.mp (mt List.infix_cons_iff.mpr h)
    have hnot : startsWith old (c :: t) = false := by
      rw [startsWith, Bool.eq_false_iff, ne_eq, List.isPrefixOf_iff_prefix]
      exact hstart
    rw [replaceFrom, hnot, if_neg Bool.false_ne_true, ih hlater]

theorem length_replaceFrom_le (hlength : new.length < old.length) (k : ℕ) (t : Text) :
    (replaceFrom old new k t).length ≤ t.length - k := by
  induction t generalizing k with
  | nil => simp [replaceFrom]
  | cons c t ih =>
    cases k with
    | succ k =>
      rw [replaceFrom, List.length_cons, Nat.add_sub_add_right]
      exact ih k
    | zero =>
      rw [replaceFrom]
      split
      · next hstart =>
        have hle := (List.isPrefixOf_iff_prefix.mp hstart).length_le
        have hrest := ih (old.length - 1)
        rw [List.length_append, List.length_cons] at *
        omega
      · have hrest := ih 0
        rw [List.length_cons, List.length_cons]
        omega

/-- A replacement by something shorter shortens a text just if it replaces anything. -/
theorem length_replace_eq_iff (hlength : new.length < old.length) :
    (replace old new t).length = t.length ↔ ¬old <:+: t := by
  constructor
  · intro heq hinfix
    rw [replace] at heq
    induction t with
    | nil =>
      rw [List.infix_nil.mp hinfix] at hlength
      exact absurd hlength (Nat.not_lt_zero _)
    | cons c t ih =>
      rw [replaceFrom] at heq
      split at heq
      · next hstart =>
        have hle := (List.isPrefixOf_iff_prefix.mp hstart).length_le
        have hrest := length_replaceFrom_le hlength (old.length - 1) t
        rw [List.length_append, List.length_cons] at *
        omega
      · next hstart =>
        have hlater : old <:+: t := (List.infix_cons_iff.mp hinfix).resolve_left fun hprefix ↦
          hstart (List.isPrefixOf_iff_prefix.mpr hprefix)
        exact ih (Nat.succ.inj heq) hlater
  · intro hinfix
    rw [replace_eq_self_of_absent hinfix]

/-- A replacement by something shorter leaves a text as it is just if it has nothing to replace. -/
theorem replace_eq_self_iff (hlength : new.length < old.length) :
    replace old new t = t ↔ ¬old <:+: t :=
  ⟨fun h ↦ (length_replace_eq_iff hlength).mp (congrArg List.length h),
    replace_eq_self_of_absent⟩

end Text

namespace Signature

open Model

variable {P : Text → Prop} {site : Site} {s t v : Text}

/-! ### Tags -/

theorem substitute_dropTag_of_not_mem (hs : '<' ∉ s) (t : Text) :
    Text.substitute dropTag (s ++ t) = s ++ Text.substitute dropTag t := by
  induction s with
  | nil => rfl
  | cons c s ih =>
    have hc : c ≠ '<' := (List.ne_of_not_mem_cons hs).symm
    have hnone : dropTag (c :: (s ++ t)) = none := by
      unfold dropTag
      split
      · next heq => exact absurd (List.cons.inj heq).1 hc
      · rfl
    rw [List.cons_append, Text.substitute, Text.substituteFrom, hnone]
    exact congrArg (c :: ·) (ih (List.not_mem_of_not_mem_cons hs))

/-- A tag ends at the first closing bracket. -/
theorem substitute_dropTag_tag (hs : '>' ∉ s) (t : Text) :
    Text.substitute dropTag ('<' :: s ++ '>' :: t) = Text.substitute dropTag t := by
  have hinside : (s ++ '>' :: t).takeWhile (· != '>') = s := Text.takeWhile_append_stop hs
  have hlength : s.length < (s ++ '>' :: t).length := by simp
  have hrule : dropTag ('<' :: (s ++ '>' :: t)) = some (s.length + 2, []) := by
    simp only [dropTag, hinside, if_pos hlength]
  have hrest : s ++ '>' :: t = s ++ ['>'] ++ t := by simp
  have hsize : s.length + 2 - 1 = (s ++ ['>']).length := by simp
  rw [List.cons_append, Text.substitute, Text.substituteFrom, hrule]
  simp only [List.nil_append]
  rw [hrest, hsize, Text.substituteFrom_length, ← Text.substitute]

theorem exists_tag_eq {start stop before after value : Text} (hstart : start = '<' :: before)
    (hstop : stop = after ++ ['>']) (hbefore : '>' ∉ before) (hvalue : '>' ∉ value)
    (hafter : '>' ∉ after) :
    ∃ inside, start ++ (value ++ stop) = '<' :: inside ++ ['>'] ∧ '>' ∉ inside := by
  refine ⟨before ++ (value ++ after), ?_, by simp [hbefore, hvalue, hafter]⟩
  rw [hstart, hstop]
  simp only [List.cons_append, List.append_assoc]

/-- An opening tag ends at its only closing bracket. -/
theorem exists_opening_eq {e : Element} (he : e.IsKnown P) (hurl : ∀ url, P url → '>' ∉ url) :
    ∃ inside, e.opening = '<' :: inside ++ ['>'] ∧ '>' ∉ inside := by
  cases e with
  | span className =>
    have hclasses : ∀ c ∈ spanClasses, '>' ∉ c := by decide
    have hstart : ("<span class=\"" : Text) = '<' :: "span class=\"" := by decide
    have hstop : ("\">" : Text) = "\"".toList ++ ['>'] := by decide
    exact exists_tag_eq hstart hstop (by decide) (hclasses className he) (by decide)
  | link url =>
    have hstart : ("<a href=\"" : Text) = '<' :: "a href=\"" := by decide
    have hstop : ("\" class=\"type-link\">" : Text) =
        "\" class=\"type-link\"".toList ++ ['>'] := by decide
    exact exists_tag_eq hstart hstop (by decide) (hurl url he) (by decide)

theorem substitute_dropTag_opening {e : Element} (he : e.IsKnown P)
    (hurl : ∀ url, P url → '>' ∉ url) (t : Text) :
    Text.substitute dropTag (e.opening ++ t) = Text.substitute dropTag t := by
  obtain ⟨inside, hopening, hinside⟩ := exists_opening_eq he hurl
  rw [hopening, List.append_assoc]
  exact substitute_dropTag_tag hinside t

theorem substitute_dropTag_closing (e : Element) (t : Text) :
    Text.substitute dropTag (e.closing ++ t) = Text.substitute dropTag t := by
  cases e with
  | span _ => exact substitute_dropTag_tag (s := "/span") (by decide) t
  | link _ => exact substitute_dropTag_tag (s := "/a") (by decide) t

/-- What is left of markup without its tags is what a reader sees, escaped. -/
theorem Shows.substitute_dropTag (hs : Shows P s v) (hurl : ∀ url, P url → '>' ∉ url) (t : Text) :
    Text.substitute dropTag (s ++ t) = escape v ++ Text.substitute dropTag t := by
  induction hs generalizing t with
  | nil => rfl
  | char c _ ih =>
    rw [List.append_assoc, substitute_dropTag_of_not_mem (brackets_not_mem_escapeChar c).1, ih]
    exact (List.append_assoc _ _ _).symm
  | element e he _ _ hinner hrest =>
    simp only [List.append_assoc]
    rw [substitute_dropTag_opening he hurl, hinner, substitute_dropTag_closing, hrest,
      escape_append, List.append_assoc]

/-! ### Entities -/

/-- A character of a text as markup, some characters of which are decoded already. -/
def escapeBut (decoded : List Char) (c : Char) : Text := if c ∈ decoded then [c] else escapeChar c

theorem escapeBut_eq_singleton {c : Char} (hc : c ∉ ['&', '<', '>', '"']) (decoded : List Char) :
    escapeBut decoded c = [c] := by
  have hchar : escapeChar c = [c] := by
    unfold escapeChar
    split <;> simp_all
  rw [escapeBut, hchar, ite_self]

/-- Decoding an entity is a matter of the four characters that are escaped. -/
theorem replace_flatMap_escapeBut {name new : Text} (before after : List Char)
    (hamp : ∀ rest, Text.replace ('&' :: name) new (escapeBut before '&' ++ rest) =
      escapeBut after '&' ++ Text.replace ('&' :: name) new rest)
    (hlt : ∀ rest, Text.replace ('&' :: name) new (escapeBut before '<' ++ rest) =
      escapeBut after '<' ++ Text.replace ('&' :: name) new rest)
    (hgt : ∀ rest, Text.replace ('&' :: name) new (escapeBut before '>' ++ rest) =
      escapeBut after '>' ++ Text.replace ('&' :: name) new rest)
    (hquote : ∀ rest, Text.replace ('&' :: name) new (escapeBut before '"' ++ rest) =
      escapeBut after '"' ++ Text.replace ('&' :: name) new rest) :
    Text.replace ('&' :: name) new (t.flatMap (escapeBut before)) =
      t.flatMap (escapeBut after) := by
  refine Text.replace_flatMap fun c rest ↦ ?_
  by_cases hc : c ∈ ['&', '<', '>', '"']
  · simp only [List.mem_cons, List.not_mem_nil, or_false] at hc
    obtain rfl | rfl | rfl | rfl := hc
    · exact hamp rest
    · exact hlt rest
    · exact hgt rest
    · exact hquote rest
  · rw [escapeBut_eq_singleton hc, escapeBut_eq_singleton hc]
    exact Text.replace_cons (List.ne_of_not_mem_cons hc) rest

/-- No number follows an ampersand that was escaped. -/
theorem replace_number_flatMap_escapeBut {digits new : Text} {decoded : List Char}
    (hamp : '&' ∉ decoded) :
    Text.replace ('&' :: '#' :: digits) new (t.flatMap (escapeBut decoded)) =
      t.flatMap (escapeBut decoded) := by
  refine Text.replace_flatMap fun c rest ↦ ?_
  rw [escapeBut]
  split
  · next hc => exact Text.replace_cons (ne_of_mem_of_not_mem hc hamp) rest
  · unfold escapeChar
    split
    · rfl
    · rfl
    · rfl
    · rfl
    · next hc _ _ _ => exact Text.replace_cons hc rest

/-- Entities are decoded one kind after the other. The last kind is that of the number of an
ampersand, which may be spelled out in a text. -/
theorem unescape_escape (t : Text) : unescape (escape t) = Text.replace "&#38;" "&" t := by
  have hlt : Text.replace "&lt;" "<" (escape t) = t.flatMap (escapeBut ['<']) :=
    replace_flatMap_escapeBut [] ['<'] (fun _ ↦ rfl) (fun _ ↦ rfl) (fun _ ↦ rfl) (fun _ ↦ rfl)
  have hgt : Text.replace "&gt;" ">" (t.flatMap (escapeBut ['<'])) =
      t.flatMap (escapeBut ['<', '>']) :=
    replace_flatMap_escapeBut _ _ (fun _ ↦ rfl) (fun _ ↦ rfl) (fun _ ↦ rfl) (fun _ ↦ rfl)
  have hquote : Text.replace "&quot;" "\"" (t.flatMap (escapeBut ['<', '>'])) =
      t.flatMap (escapeBut ['<', '>', '"']) :=
    replace_flatMap_escapeBut _ _ (fun _ ↦ rfl) (fun _ ↦ rfl) (fun _ ↦ rfl) (fun _ ↦ rfl)
  have hamp : Text.replace "&amp;" "&" (t.flatMap (escapeBut ['<', '>', '"'])) =
      t.flatMap (escapeBut ['<', '>', '"', '&']) :=
    replace_flatMap_escapeBut _ _ (fun _ ↦ rfl) (fun _ ↦ rfl) (fun _ ↦ rfl) (fun _ ↦ rfl)
  have hlt' : Text.replace "&#60;" "<" (t.flatMap (escapeBut ['<'])) = _ :=
    replace_number_flatMap_escapeBut (by decide)
  have hgt' : Text.replace "&#62;" ">" (t.flatMap (escapeBut ['<', '>'])) = _ :=
    replace_number_flatMap_escapeBut (by decide)
  have hquote' : Text.replace "&#34;" "\"" (t.flatMap (escapeBut ['<', '>', '"'])) = _ :=
    replace_number_flatMap_escapeBut (by decide)
  have hapostrophe : Text.replace "&#39;" "'" (t.flatMap (escapeBut ['<', '>', '"'])) = _ :=
    replace_number_flatMap_escapeBut (by decide)
  have hplain : t.flatMap (escapeBut ['<', '>', '"', '&']) = t := by
    refine Text.escapeWith_eq_self fun c _ ↦ ?_
    by_cases hc : c ∈ ['<', '>', '"', '&']
    · exact if_pos hc
    · exact escapeBut_eq_singleton (by simp_all) _
  simp only [unescape, entities, List.foldl_cons, List.foldl_nil]
  rw [hlt, hlt', hgt, hgt', hquote, hquote', hapostrophe, hamp, hplain]

/-- What is left of markup without its tags and entities is what a reader sees, up to spelled out
numbers of ampersands. -/
theorem Shows.unescape_substitute (hs : Shows P s v) (hurl : ∀ url, P url → '>' ∉ url) :
    unescape (Text.substitute dropTag s) = Text.replace "&#38;" "&" v := by
  have hdrop := hs.substitute_dropTag hurl []
  have hnil : Text.substitute dropTag [] = [] := rfl
  rw [List.append_nil, hnil, List.append_nil] at hdrop
  rw [hdrop, unescape_escape]

/-- **Decoding what was escaped.** A text that is escaped and decoded is the text with an ampersand
for each `&#38;` that is spelled out in it, so it is given back exactly if there is none. And just
then a piece of markup that shows the text, be it the escaped text alone or in tags, is measured at
the length of the text. -/
theorem unescape_escape_eq_iff (t : Text) :
    unescape (escape t) = Text.replace "&#38;" "&" t ∧
    (unescape (escape t) = t ↔ ¬"&#38;".toList <:+: t) ∧
    ∀ s, Shows ('>' ∉ ·) s t →
      shownLength s = (Text.replace "&#38;" "&" t).length ∧
      (shownLength s = t.length ↔ ¬"&#38;".toList <:+: t) := by
  refine ⟨unescape_escape t, ?_, fun s hs ↦ ?_⟩
  · rw [unescape_escape]
    exact Text.replace_eq_self_iff (by decide)
  · have hshown := hs.unescape_substitute fun _ h ↦ h
    rw [shownLength, hshown]
    exact ⟨rfl, Text.length_replace_eq_iff (by decide)⟩

/-- The number of an ampersand, where it is the name of what is declared, is measured as one
character. -/
theorem unescape_escape_eq_iff_number :
    unescape (escape "&#38;") = "&".toList ∧ unescape (escape "&#38;") ≠ "&#38;".toList ∧
    Shows ('>' ∉ ·) (declared "&#38;") "&#38;" ∧ shownLength (declared "&#38;") = 1 := by
  have hshows : Shows ('>' ∉ ·) (declared "&#38;") "&#38;" :=
    shows_span (by decide) (shows_escape _)
  obtain ⟨hdecoded, hself, hmeasured⟩ := unescape_escape_eq_iff "&#38;"
  exact ⟨hdecoded, mt hself.mp (not_not_intro List.infix_rfl), hshows, (hmeasured _ hshows).1⟩

/-- Other entities that are spelled out are decoded once. -/
example : unescape (escape "&amp;lt; &#60; \"'") = "&amp;lt; &#60; \"'".toList := by decide

/-! ### Texts without ampersands -/

/-- No name in a type has an ampersand. -/
def HasPlainNames (t : TypeRef) : Prop := ∀ u ∈ t.parts, '&' ∉ u.name

/-- No text in a parameter has an ampersand. -/
structure IsPlain (p : Parameter) : Prop where
  name : '&' ∉ p.name
  fallback : ∀ v ∈ p.fallback, '&' ∉ v
  type : ∀ t ∈ p.type, HasPlainNames t

theorem not_mem_join {x : Char} {sep : Text} {items : List Text} (hsep : x ∉ sep)
    (hitems : ∀ t ∈ items, x ∉ t) : x ∉ Text.join sep items := by
  intro hmem
  rcases Text.mem_of_mem_join hmem with hmem | ⟨t, ht, hmem⟩
  · exact hsep hmem
  · exact hitems t ht hmem

mutual

theorem amp_not_mem_display : (t : TypeRef) → HasPlainNames t → '&' ∉ t.display
  | .mk name arguments nullable href wanted target, ht => by
    have hname : '&' ∉ name := ht _ List.mem_cons_self
    have harguments : '&' ∉ Text.join ", " (TypeRef.displayAll arguments) :=
      not_mem_join (by decide) (amp_not_mem_displayAll arguments fun u hu ↦
        ht u (List.mem_cons_of_mem _ hu))
    rw [TypeRef.display, List.mem_append, List.mem_append, not_or, not_or]
    refine ⟨⟨hname, ?_⟩, ?_⟩
    · split
      · exact List.not_mem_nil
      · exact List.not_mem_append (List.not_mem_append (by decide) harguments) (by decide)
    · split
      · decide
      · exact List.not_mem_nil

theorem amp_not_mem_displayAll : (ts : List TypeRef) →
    (∀ u ∈ TypeRef.partsOfAll ts, '&' ∉ u.name) → ∀ t ∈ TypeRef.displayAll ts, '&' ∉ t
  | [], _, _, ht => absurd ht List.not_mem_nil
  | t :: ts, h, s, hs => by
    rcases List.mem_cons.mp hs with rfl | hs
    · exact amp_not_mem_display t fun u hu ↦ h u (List.mem_append_left _ hu)
    · exact amp_not_mem_displayAll ts (fun u hu ↦ h u (List.mem_append_right _ hu)) s hs

end

theorem amp_not_mem_plainAssigned : (value : Option Text) → (∀ v ∈ value, '&' ∉ v) →
    '&' ∉ plainAssigned value
  | none, _ => List.not_mem_nil
  | some [], _ => List.not_mem_nil
  | some (c :: v), hvalue => by
    have hstrip : '&' ∉ Text.strip (c :: v) := fun hmem ↦
      hvalue _ rfl (Text.mem_of_mem_trim hmem)
    simp [plainAssigned, hstrip]

theorem amp_not_mem_plainParameter {p : Parameter} (hp : IsPlain p) : '&' ∉ plainParameter p := by
  have htype : '&' ∉ plainType p.type := by
    cases htype : p.type with
    | none => decide
    | some t => exact amp_not_mem_display t (hp.type t htype)
  have hvalue := amp_not_mem_plainAssigned p.fallback hp.fallback
  simp only [plainParameter, List.mem_append, not_or]
  refine ⟨⟨⟨?_, htype⟩, ?_⟩, hvalue⟩
  · split
    · decide
    · exact List.not_mem_nil
  · split
    · exact List.not_mem_nil
    · simp [hp.name]

theorem amp_not_mem_plainParameters {ps : List Parameter} (hps : ∀ p ∈ ps, IsPlain p) :
    '&' ∉ plainParameters ps := by
  have hkind (kind : ParameterKind) :
      ∀ t ∈ (ps.filter fun p ↦ p.kind == kind).map plainParameter, '&' ∉ t := by
    intro t ht
    obtain ⟨p, hp, rfl⟩ := List.mem_map.mp ht
    exact amp_not_mem_plainParameter (hps p (List.mem_of_mem_filter hp))
  have hgroup {brackets : Char × Char} (hopening : '&' ≠ brackets.1) (hclosing : '&' ≠ brackets.2)
      (kind : ParameterKind) : '&' ∉ brackets.1 :: Text.join ", "
        ((ps.filter fun p ↦ p.kind == kind).map plainParameter) ++ [brackets.2] := by
    have hjoin : '&' ∉ Text.join ", " _ := not_mem_join (by decide) (hkind kind)
    exact List.not_mem_append (List.not_mem_cons_of_ne_of_not_mem hopening hjoin)
      (by simpa using hclosing)
  unfold plainParameters wideParameters groupsBy
  simp only [List.mem_append, not_or]
  refine ⟨⟨by decide, not_mem_join (by decide) fun t ht ↦ ?_⟩, by decide⟩
  rcases List.mem_append.mp ht with ht | ht
  · exact hkind .positional t ht
  · split at ht
    · obtain rfl := List.mem_singleton.mp ht
      exact hgroup (by decide) (by decide) .optional
    · split at ht
      · obtain rfl := List.mem_singleton.mp ht
        exact hgroup (by decide) (by decide) .named
      · exact absurd ht List.not_mem_nil

/-! ### What is measured -/

/-- **A type shows its text.** Without the tags and with the entities decoded, a type whose names
have no ampersand is what it is displayed as, and so it is measured. Parameters are measured as a
reader sees them on one line just if no `&#38;` is spelled out in them; where no text in them has an
ampersand they stand on one line exactly if what a reader sees of them fits. -/
theorem shown_typeMarkup (site : Site) :
    (∀ t : TypeRef, HasPlainNames t → HasUrls ('>' ∉ ·) site t →
      unescape (Text.substitute dropTag (typeMarkup site t)) = t.display ∧
      shownLength (typeMarkup site t) = t.display.length) ∧
    ∀ ps : List Parameter, ps ≠ [] → (∀ p ∈ ps, ∀ t ∈ p.type, HasUrls ('>' ∉ ·) site t) →
      (shownLength (wideParameters (groupParameters site ps)) = (plainParameters ps).length ↔
        ¬"&#38;".toList <:+: plainParameters ps) ∧
      ((∀ p ∈ ps, IsPlain p) →
        unescape (Text.substitute dropTag (wideParameters (groupParameters site ps))) =
          plainParameters ps ∧
        ∀ (before : ℕ) (width : ℤ), parameters site ps before width =
          if (before + (plainParameters ps).length : ℤ) ≤ width then
            wideParameters (groupParameters site ps)
          else tallParameters (groupParameters site ps)) := by
  constructor
  · intro t hnames hurls
    have hshown : unescape (Text.substitute dropTag (typeMarkup site t)) = t.display := by
      rw [(shows_typeMarkup t hurls).unescape_substitute fun _ h ↦ h]
      exact Text.replace_eq_self (x := '&') (by decide) (amp_not_mem_display t hnames)
    exact ⟨hshown, by rw [shownLength, hshown]⟩
  · intro ps hps hurls
    have hshown := (shows_wideParameters hurls).unescape_substitute fun _ h ↦ h
    refine ⟨?_, fun hplain ↦ ?_⟩
    · rw [shownLength, hshown]
      exact Text.length_replace_eq_iff (by decide)
    · have hamp := amp_not_mem_plainParameters hplain
      rw [Text.replace_eq_self (x := '&') (by decide) hamp] at hshown
      refine ⟨hshown, fun before width ↦ ?_⟩
      have hne : ps.isEmpty = false := List.isEmpty_eq_false_iff.mpr hps
      simp only [parameters, hne, Bool.false_eq_true, if_false, shownLength, hshown]

/-- A type with arguments, one of which has a page, and brackets and quotation marks in names. -/
def genericType : TypeRef :=
  let base : TypeRef := .mk "Base" [] true .null .null (some (.container 0 0 0))
  .mk "Map<'" [.mk "K\"" [] false .null .null none, .mk "List" [base] false .null .null none] true
    .null .null none

def genericParameter : Parameter := ⟨"all", some genericType, .named, true, some " <int>[] "⟩

/-- A site with a page for the class `Base`. -/
def genericSite : Site :=
  let library : Library :=
    { name := "kit", dirName := "kit", containers := [{ name := "Base", kind := "class" }] }
  let model : Model := ⟨[{ name := "kit", libraries := [library] }], [], []⟩
  ⟨model, (Location.build ⟨[], [], [], []⟩ model.entities).1, .of [] [], [], 80, none⟩

theorem shown_typeMarkup_nested :
    HasPlainNames genericType ∧ HasUrls ('>' ∉ ·) genericSite genericType ∧
    genericType.parts.filterMap (linkUrl? genericSite) = ["/api/kit/Base".toList] ∧
    unescape (Text.substitute dropTag (typeMarkup genericSite genericType)) =
      "Map<'<K\", List<Base?>>?".toList ∧
    (∀ p ∈ [genericParameter], IsPlain p) ∧
    unescape (Text.substitute dropTag
      (wideParameters (groupParameters genericSite [genericParameter]))) =
        "(\x7brequired Map<'<K\", List<Base?>>? all = <int>[]\x7d)".toList := by
  have hnames : HasPlainNames genericType := by
    unfold HasPlainNames
    decide +kernel
  have hurls : HasUrls ('>' ∉ ·) genericSite genericType := by
    unfold HasUrls
    decide +kernel
  have hplain : ∀ p ∈ [genericParameter], IsPlain p :=
    List.forall_mem_singleton.mpr ⟨by decide, by decide, by
      rintro t ⟨rfl⟩
      exact hnames⟩
  have hparameters : ∀ p ∈ [genericParameter], ∀ t ∈ p.type, HasUrls ('>' ∉ ·) genericSite t :=
    List.forall_mem_singleton.mpr (by
      rintro t ⟨rfl⟩
      exact hurls)
  obtain ⟨htypes, hlists⟩ := shown_typeMarkup genericSite
  exact ⟨hnames, hurls, by decide +kernel, (htypes genericType hnames hurls).1, hplain,
    ((hlists [genericParameter] (List.cons_ne_nil _ _) hparameters).2 hplain).1⟩

end Signature

end ApiSite
