import ApiSite.Proofs.Model.Entities
import ApiSite.Proofs.Model.Linking
import ApiSite.Proofs.Text
import ApiSite.Signature.Declaration
import Mathlib.Data.List.Forall2

/-!
# The elements of signatures

A signature is text of which some pieces are elements: spans of a class, and links to types. All
other text is escaped. The grammar `Shows` says this, together with what a reader sees of a piece of
markup: the text without the tags of elements, and not escaped. Addresses are the only texts of a
model that stand in a tag, so the grammar asks for nothing but a property of them.

Pieces of markup can be put together, and so each function that writes a part of a signature keeps
to the grammar (`isMarkup_of_isDeclaration`). What is to be proved of all signatures is proved by
induction on it, with one case for characters and one for elements.
-/

set_option autoImplicit false

namespace ApiSite

namespace Signature

open Model

variable {P : Text → Prop} {site : Site} {s t v w sep : Text}

/-! ### Escaped text -/

theorem brackets_not_mem_escapeChar (c : Char) : '<' ∉ escapeChar c ∧ '>' ∉ escapeChar c := by
  unfold escapeChar
  split <;> simp_all [eq_comm]

theorem escape_append (s t : Text) : escape (s ++ t) = escape s ++ escape t :=
  List.flatMap_append

/-! ### The grammar -/

/-- The classes that spans have. -/
def spanClasses : List Text := Text.ofStrings ["kw", "fn", "param", "type", "num-lit", "str-lit"]

/-- What a signature marks: text of a class, or a link to a type. -/
inductive Element where
  | span (className : Text)
  | link (url : Text)

namespace Element

def opening : Element → Text
  | span className => "<span class=\"" ++ (className ++ "\">")
  | link url => "<a href=\"" ++ (url ++ "\" class=\"type-link\">")

def closing : Element → Text
  | span _ => "</span>"
  | link _ => "</a>"

theorem opening_span_append (className t : Text) : (span className).opening ++ t =
    "<span class=\"".toList ++ (className ++ ("\">".toList ++ t)) :=
  (List.append_assoc _ _ _).trans (congrArg _ (List.append_assoc _ _ _))

/-- Spans have one of the classes, and links an address with a property. -/
def IsKnown (P : Text → Prop) : Element → Prop
  | span className => className ∈ spanClasses
  | link url => P url

end Element

/-- A piece of markup, and what a reader sees of it. -/
inductive Shows (P : Text → Prop) : Text → Text → Prop where
  | nil : Shows P [] []
  | char (c : Char) {s v : Text} (rest : Shows P s v) : Shows P (escapeChar c ++ s) (c :: v)
  | element (e : Element) (known : e.IsKnown P) {s v t w : Text} (inner : Shows P s v)
      (rest : Shows P t w) : Shows P (e.opening ++ (s ++ (e.closing ++ t))) (v ++ w)

/-- A text that is a piece of markup. -/
def IsMarkup (P : Text → Prop) (s : Text) : Prop := ∃ v, Shows P s v

theorem Shows.append (hs : Shows P s v) (ht : Shows P t w) : Shows P (s ++ t) (v ++ w) := by
  induction hs with
  | nil => exact ht
  | char c _ ih =>
    rw [List.append_assoc, List.cons_append]
    exact .char c ih
  | element e he hinner _ _ ih =>
    simp only [List.append_assoc]
    exact .element e he hinner ih

theorem shows_escape (t : Text) : Shows P (escape t) t := by
  induction t with
  | nil => exact .nil
  | cons c t ih => exact .char c ih

/-- Text without special characters shows itself. -/
theorem shows_text (ht : escape t = t) : Shows P t t := by
  have h : Shows P (escape t) t := shows_escape t
  rwa [ht] at h

theorem shows_element {e : Element} (he : e.IsKnown P) (hs : Shows P s v) :
    Shows P (e.opening ++ (s ++ e.closing)) v := by
  have h := Shows.element e he hs .nil
  rwa [List.append_nil, List.append_nil] at h

/-- A tag with a value in it, and what it stands around. -/
theorem append_tags (start value stop content closing : Text) :
    start ++ value ++ stop ++ content ++ closing =
      start ++ (value ++ stop) ++ (content ++ closing) := by
  simp only [List.append_assoc]

theorem span_eq (className content : Text) : span className content =
    (Element.span className).opening ++ (content ++ (Element.span className).closing) :=
  append_tags _ _ _ _ _

theorem link_eq (url content : Text) :
    "<a href=\"".toList ++ url ++ "\" class=\"type-link\">".toList ++ content ++ "</a>".toList =
      (Element.link url).opening ++ (content ++ (Element.link url).closing) :=
  append_tags _ _ _ _ _

theorem shows_span {className : Text} (hclass : className ∈ spanClasses) (hs : Shows P s v) :
    Shows P (span className s) v := by
  rw [span_eq]
  exact shows_element (e := .span className) hclass hs

theorem shows_keyword (word : Text) : Shows P (keyword word) word :=
  shows_span (by decide) (shows_escape word)

theorem shows_join (hsep : escape sep = sep) {items seen : List Text}
    (h : List.Forall₂ (Shows P) items seen) :
    Shows P (Text.join sep items) (Text.join sep seen) := by
  induction h with
  | nil => exact .nil
  | cons hs hrest ih =>
    cases hrest with
    | nil => exact hs
    | cons ht hrest => exact hs.append ((shows_text hsep).append ih)

theorem shows_bracketed {items seen : List Text} (h : List.Forall₂ (Shows P) items seen) :
    Shows P (bracketed items) ("<" ++ Text.join ", " seen ++ ">") :=
  ((shows_escape "<").append (shows_join (by decide) h)).append (shows_escape ">")

/-! ### Types -/

/-- The address that the name of a type leads to, if it is a link. -/
def linkUrl? (site : Site) (t : TypeRef) : Option Text :=
  ((site.targetOf t).filter Entity.isPublic).bind site.location.url?

/-- All links in a type have addresses with a property. -/
def HasUrls (P : Text → Prop) (site : Site) (t : TypeRef) : Prop :=
  ∀ u ∈ t.parts, ∀ url ∈ linkUrl? site u, P url

/-- The addresses that signatures of a site link to: those of public entities of its model. -/
def IsPublicAddress (site : Site) (url : Text) : Prop :=
  ∃ x : Entity, x.IsIn site.model ∧ x.isPublic = true ∧ site.location.url? x = some url

theorem hasUrls_isPublicAddress (t : TypeRef) : HasUrls (IsPublicAddress site) site t := by
  intro u _ url hurl
  obtain ⟨x, htarget, hurl⟩ := Option.bind_eq_some_iff.mp (Option.mem_def.mp hurl)
  obtain ⟨htarget, hpublic⟩ := Option.filter_eq_some_iff.mp htarget
  obtain ⟨place, -, hentity⟩ := Option.bind_eq_some_iff.mp htarget
  exact ⟨x, Model.isIn_of_entity? hentity, hpublic, hurl⟩

theorem shows_typeName {t : TypeRef} (ht : ∀ url ∈ linkUrl? site t, P url) :
    Shows P (typeName site t) t.name := by
  unfold typeName
  simp only
  split
  · next url hurl =>
    rw [link_eq]
    exact shows_element (e := .link url) (ht url hurl) (shows_escape t.name)
  · exact shows_span (by decide) (shows_escape _)

mutual

theorem shows_typeMarkup : (t : TypeRef) → HasUrls P site t →
    Shows P (typeMarkup site t) t.display
  | .mk name arguments nullable href wanted target, ht => by
    have hname := shows_typeName (ht _ List.mem_cons_self)
    have harguments := shows_bracketed
      (shows_typeMarkups arguments fun u hu ↦ ht u (List.mem_cons_of_mem _ hu))
    rw [typeMarkup, TypeRef.display]
    refine (hname.append ?_).append ?_
    · split
      · exact .nil
      · exact harguments
    · split
      · exact shows_text (by decide)
      · exact .nil

theorem shows_typeMarkups : (ts : List TypeRef) →
    (∀ u ∈ TypeRef.partsOfAll ts, ∀ url ∈ linkUrl? site u, P url) →
    List.Forall₂ (Shows P) (typeMarkups site ts) (TypeRef.displayAll ts)
  | [], _ => .nil
  | t :: ts, h =>
    .cons (shows_typeMarkup t fun u hu ↦ h u (List.mem_append_left _ hu))
      (shows_typeMarkups ts fun u hu ↦ h u (List.mem_append_right _ hu))

end

/-- What a reader sees of a type that may be left out. -/
def plainType (t : Option TypeRef) : Text := (t.map TypeRef.display).getD "dynamic"

theorem shows_typeOrDynamic {t : Option TypeRef} (ht : ∀ u ∈ t, HasUrls P site u) :
    Shows P (typeOrDynamic site t) (plainType t) := by
  cases t with
  | none => exact shows_span (by decide) (shows_text (by decide))
  | some t => exact shows_typeMarkup t (ht t rfl)

/-! ### Parameters -/

/-- What a reader sees of a value after an equals sign. -/
def plainAssigned (value : Option Text) : Text :=
  match value with
  | none => []
  | some [] => []
  | some v => " = " ++ Text.strip v

theorem shows_literal (value : Text) : Shows P (literal value) (Text.strip value) := by
  unfold literal
  simp only
  split
  · exact shows_span (by decide) (shows_escape _)
  · split
    · exact shows_span (by decide) (shows_escape _)
    · split
      · exact shows_keyword _
      · exact shows_escape _

theorem shows_assigned : (value : Option Text) → Shows P (assigned value) (plainAssigned value)
  | none => .nil
  | some [] => .nil
  | some (c :: v) => (shows_text (t := " = ") (by decide)).append (shows_literal (c :: v))

/-- What a reader sees of a parameter. -/
def plainParameter (p : Parameter) : Text :=
  let required : Text := if p.kind == .named && p.isRequired then "required " else []
  let name : Text := if p.name.isEmpty then [] else ' ' :: p.name
  required ++ plainType p.type ++ name ++ plainAssigned p.fallback

theorem shows_parameter {p : Parameter} (hp : ∀ t ∈ p.type, HasUrls P site t) :
    Shows P (parameter site p) (plainParameter p) := by
  unfold parameter plainParameter
  refine ((Shows.append ?_ (shows_typeOrDynamic hp)).append ?_).append (shows_assigned _)
  · split
    · exact (shows_keyword "required").append (shows_text (t := " ") (by decide))
    · exact .nil
  · split
    · exact .nil
    · exact (shows_text (t := " ") (by decide)).append
        (shows_span (by decide) (shows_escape p.name))

/-- Parameters by their kinds, each written in some way. -/
def groupsBy (write : Parameter → Text) (ps : List Parameter) : ParameterGroups :=
  let ofKind (kind : ParameterKind) : List Text := (ps.filter fun p ↦ p.kind == kind).map write
  ⟨ofKind .positional, ofKind .optional, ofKind .named⟩

/-- What a reader sees of parameters on one line. -/
def plainParameters (ps : List Parameter) : Text := wideParameters (groupsBy plainParameter ps)

theorem shows_ofKind {ps : List Parameter} (hps : ∀ p ∈ ps, ∀ t ∈ p.type, HasUrls P site t)
    (kind : ParameterKind) :
    List.Forall₂ (Shows P) ((ps.filter fun p ↦ p.kind == kind).map (parameter site))
      ((ps.filter fun p ↦ p.kind == kind).map plainParameter) := by
  rw [List.forall₂_map_left_iff, List.forall₂_map_right_iff, List.forall₂_same]
  exact fun p hp ↦ shows_parameter (hps p (List.mem_of_mem_filter hp))

/-- Brackets around parameters are seen as they are. -/
theorem shows_brackets {brackets : Char × Char} (hopening : escape [brackets.1] = [brackets.1])
    (hclosing : escape [brackets.2] = [brackets.2]) {items seen : List Text}
    (h : List.Forall₂ (Shows P) items seen) :
    Shows P (brackets.1 :: Text.join ", " items ++ [brackets.2])
      (brackets.1 :: Text.join ", " seen ++ [brackets.2]) :=
  ((shows_text hopening).append (shows_join (by decide) h)).append (shows_text hclosing)

theorem shows_wideParameters {ps : List Parameter}
    (hps : ∀ p ∈ ps, ∀ t ∈ p.type, HasUrls P site t) :
    Shows P (wideParameters (groupParameters site ps)) (plainParameters ps) := by
  have hoptional := shows_ofKind hps .optional
  have hnamed := shows_ofKind hps .named
  unfold plainParameters wideParameters groupParameters groupsBy
  simp only [List.isEmpty_map]
  refine ((shows_text (t := "(") (by decide)).append (shows_join (by decide)
    (List.rel_append (shows_ofKind hps .positional) ?_))).append (shows_text (t := ")") (by decide))
  split
  · exact .cons (shows_brackets (by decide) (by decide) hoptional) .nil
  · split
    · exact .cons (shows_brackets (by decide) (by decide) hnamed) .nil
    · exact .nil

/-! ### Pieces of markup -/

theorem Shows.isMarkup (h : Shows P s v) : IsMarkup P s := ⟨v, h⟩

theorem isMarkup_nil : IsMarkup P [] := Shows.nil.isMarkup

theorem isMarkup_text (ht : escape t = t) : IsMarkup P t := (shows_text ht).isMarkup

theorem isMarkup_space : IsMarkup P (" " : Text) := isMarkup_text (by decide)

theorem IsMarkup.append (hs : IsMarkup P s) (ht : IsMarkup P t) : IsMarkup P (s ++ t) := by
  obtain ⟨v, hs⟩ := hs
  obtain ⟨w, ht⟩ := ht
  exact (hs.append ht).isMarkup

theorem IsMarkup.ite {b : Prop} [Decidable b] (hs : IsMarkup P s) (ht : IsMarkup P t) :
    IsMarkup P (if b then s else t) := by
  split
  · exact hs
  · exact ht

theorem isMarkup_join (hsep : escape sep = sep) {items : List Text}
    (h : ∀ s ∈ items, IsMarkup P s) : IsMarkup P (Text.join sep items) := by
  induction items with
  | nil => exact isMarkup_nil
  | cons s items ih =>
    obtain ⟨hs, hrest⟩ := List.forall_mem_cons.mp h
    cases items with
    | nil => exact hs
    | cons t items => exact hs.append ((isMarkup_text hsep).append (ih hrest))

theorem isMarkup_flatMap {α : Type} {f : α → Text} {l : List α}
    (h : ∀ a ∈ l, IsMarkup P (f a)) : IsMarkup P (l.flatMap f) := by
  induction l with
  | nil => exact isMarkup_nil
  | cons a l ih =>
    rw [List.flatMap_cons]
    exact (h a List.mem_cons_self).append (ih fun b hb ↦ h b (List.mem_cons_of_mem _ hb))

theorem isMarkup_keyword (word : Text) : IsMarkup P (keyword word) := (shows_keyword word).isMarkup

theorem isMarkup_keywordIf (applies : Bool) (word : Text) : IsMarkup P (keywordIf applies word) :=
  ((isMarkup_keyword word).append isMarkup_space).ite isMarkup_nil

theorem isMarkup_declared (name : Text) : IsMarkup P (declared name) :=
  (shows_span (by decide) (shows_escape name)).isMarkup

theorem isMarkup_constantValue (d : Signed) : IsMarkup P (constantValue d) :=
  (shows_assigned _).isMarkup.ite isMarkup_nil

/-! ### Declarations -/

section Declarations

variable (hurls : ∀ t : TypeRef, HasUrls P site t)

include hurls

theorem isMarkup_typeOrDynamic (t : Option TypeRef) : IsMarkup P (typeOrDynamic site t) :=
  (shows_typeOrDynamic fun u _ ↦ hurls u).isMarkup

theorem isMarkup_typeMarkup (t : TypeRef) : IsMarkup P (typeMarkup site t) :=
  (shows_typeMarkup t (hurls t)).isMarkup

theorem isMarkup_typeParameter (p : TypeParameter) : IsMarkup P (typeParameter site p) := by
  unfold typeParameter
  refine (shows_escape _).isMarkup.append ?_
  cases p.bound with
  | none => exact isMarkup_nil
  | some t =>
    exact ((isMarkup_space.append (isMarkup_keyword _)).append isMarkup_space).append
      (isMarkup_typeMarkup hurls t)

theorem isMarkup_typeParameters (ps : List TypeParameter) :
    IsMarkup P (typeParameters site ps) := by
  refine isMarkup_nil.ite (((shows_escape "<").isMarkup.append
    (isMarkup_join (by decide) fun s hs ↦ ?_)).append (shows_escape ">").isMarkup)
  obtain ⟨p, -, rfl⟩ := List.mem_map.mp hs
  exact isMarkup_typeParameter hurls p

theorem isMarkup_ofKind (ps : List Parameter) (kind : ParameterKind) :
    ∀ s ∈ (ps.filter fun p ↦ p.kind == kind).map (parameter site), IsMarkup P s := by
  intro s hs
  obtain ⟨p, -, rfl⟩ := List.mem_map.mp hs
  exact (shows_parameter fun t _ ↦ hurls t).isMarkup

omit hurls in
theorem isMarkup_parameterLines {lines : List Text} (h : ∀ s ∈ lines, IsMarkup P s) :
    IsMarkup P (parameterLines lines) :=
  isMarkup_flatMap fun s hs ↦ ((isMarkup_text (t := "  ") (by decide)).append (h s hs)).append
    (isMarkup_text (by decide))

omit hurls in
theorem isMarkup_tallParameters {g : ParameterGroups}
    (hpositional : ∀ s ∈ g.positional, IsMarkup P s) (hoptional : ∀ s ∈ g.optional, IsMarkup P s)
    (hnamed : ∀ s ∈ g.named, IsMarkup P s) : IsMarkup P (tallParameters g) := by
  unfold tallParameters
  split
  next brackets rest heq =>
  obtain ⟨hopening, hclosing, hrest⟩ : escape [brackets.1] = [brackets.1] ∧
      escape [brackets.2] = [brackets.2] ∧ ∀ s ∈ rest, IsMarkup P s := by
    split at heq
    · obtain ⟨rfl, rfl⟩ := Prod.mk.inj heq
      exact ⟨by decide, by decide, hoptional⟩
    · obtain ⟨rfl, rfl⟩ := Prod.mk.inj heq
      exact ⟨by decide, by decide, hnamed⟩
  have hstart : IsMarkup P ("(\n" : Text) := isMarkup_text (by decide)
  have hend : IsMarkup P (")" : Text) := isMarkup_text (by decide)
  have hgroup {start : Text} (h : IsMarkup P start) : IsMarkup P (start ++ [brackets.1] ++
      "\n".toList ++ parameterLines rest ++ [brackets.2] ++ ")".toList) :=
    ((((h.append (isMarkup_text hopening)).append (isMarkup_text (by decide))).append
      (isMarkup_parameterLines hrest)).append (isMarkup_text hclosing)).append hend
  split
  · exact hgroup (isMarkup_text (by decide))
  · next last hlast =>
    have hfirst := isMarkup_parameterLines fun s hs ↦ hpositional s (List.dropLast_subset _ hs)
    have hlast := hpositional last (List.mem_of_getLast? hlast)
    refine ((hstart.append (isMarkup_parameterLines hpositional)).append hend).ite
      (hgroup ((((hstart.append hfirst).append (isMarkup_text (by decide))).append hlast).append
        (isMarkup_text (by decide))))

theorem isMarkup_parameters (ps : List Parameter) (before : Nat) (width : Int) :
    IsMarkup P (parameters site ps before width) :=
  (isMarkup_text (by decide)).ite ((shows_wideParameters fun _ _ t _ ↦ hurls t).isMarkup.ite
    (isMarkup_tallParameters (isMarkup_ofKind hurls ps _) (isMarkup_ofKind hurls ps _)
      (isMarkup_ofKind hurls ps _)))

theorem isMarkup_withParameters {opening : Text} (hopening : IsMarkup P opening) (d : Signed)
    (width : Int) : IsMarkup P (withParameters site opening d width) :=
  hopening.append (isMarkup_parameters hurls _ _ _)

theorem isMarkup_callable (e : Entity) (width : Int) : IsMarkup P (callable site e width) :=
  isMarkup_withParameters hurls (((isMarkup_typeOrDynamic hurls _).append
    (isMarkup_text (by decide))).append (isMarkup_declared _)) _ _

theorem isMarkup_constructor (e : Entity) (width : Int) :
    IsMarkup P (constructor site e width) :=
  isMarkup_withParameters hurls (((isMarkup_keywordIf _ _).append
    (isMarkup_keywordIf _ _)).append (isMarkup_declared _)) _ _

theorem isMarkup_field (e : Entity) : IsMarkup P (field site e) := by
  have htype := isMarkup_typeOrDynamic hurls (signed e).returnType
  have hname : IsMarkup P (declared (Text.trimEnd (· == '=') e.name)) := isMarkup_declared _
  have hmodifiers := ((isMarkup_keywordIf (P := P) (signed e).isConst "const").append
    (isMarkup_keywordIf (!(signed e).isConst && (signed e).attributes.contains "final")
      "final")).append (isMarkup_keywordIf ((signed e).attributes.contains "late") "late")
  refine (hmodifiers.append (IsMarkup.ite ?_ (IsMarkup.ite ?_ ?_))).append
    (isMarkup_constantValue _)
  · exact (((htype.append isMarkup_space).append (isMarkup_keyword _)).append
      isMarkup_space).append hname
  · have hvalue : IsMarkup P (span "param" "value") :=
      (shows_span (by decide) (shows_text (by decide))).isMarkup
    exact ((((((isMarkup_keyword _).append isMarkup_space).append hname).append
      (isMarkup_text (by decide))).append htype).append isMarkup_space).append hvalue |>.append
      (isMarkup_text (by decide))
  · exact (htype.append isMarkup_space).append hname

theorem isMarkup_variableOf (e : Entity) : IsMarkup P (variableOf site e) :=
  (((((isMarkup_keywordIf _ _).append (isMarkup_keywordIf _ _)).append
    (isMarkup_typeOrDynamic hurls _)).append (isMarkup_text (by decide))).append
    (isMarkup_declared _)).append (isMarkup_constantValue _)

theorem isMarkup_typeDefinition (e : Entity) (width : Int) :
    IsMarkup P (typeDefinition site e width) := by
  have hopening := (((isMarkup_keyword (P := P) "typedef").append isMarkup_space).append
    (isMarkup_declared (plainName e))).append (isMarkup_text (t := " = ") (by decide))
  have hfunction : IsMarkup P (span "type" "Function") :=
    (shows_span (by decide) (shows_text (by decide))).isMarkup
  unfold typeDefinition
  simp only
  split
  · exact hopening.append (isMarkup_typeMarkup hurls _)
  · exact isMarkup_withParameters hurls (((hopening.append
      (isMarkup_typeOrDynamic hurls _)).append isMarkup_space).append hfunction) _ _

theorem isMarkup_typesAfter (word : Text) (ts : List TypeRef) :
    IsMarkup P (typesAfter site word ts) := by
  refine isMarkup_nil.ite (((isMarkup_space.append (isMarkup_keyword _)).append
    isMarkup_space).append (isMarkup_join (by decide) fun s hs ↦ ?_))
  obtain ⟨t, -, rfl⟩ := List.mem_map.mp hs
  exact isMarkup_typeMarkup hurls t

theorem isMarkup_container (c : Container) : IsMarkup P (container site c) := by
  have hopening := (((isMarkup_flatMap (l := shownModifiers c) fun m _ ↦
    isMarkup_keywordIf (P := P) true m).append (isMarkup_keywordIf true (kindWords c.kind))).append
    (isMarkup_declared c.name)).append (isMarkup_typeParameters hurls c.typeParameters)
  have hrepresentation := ((isMarkup_text (P := P) (t := "(") (by decide)).append
    (isMarkup_typeOrDynamic hurls c.extendedType)).append (isMarkup_text (t := ")") (by decide))
  have htypes := isMarkup_typesAfter hurls
  refine (hopening.append (htypes _ _)).ite ?_
  exact ((((hopening.append (hrepresentation.ite isMarkup_nil)).append (htypes _ _)).append
    (htypes _ _)).append (htypes _ _)).append (htypes _ _)

omit hurls in
/-- The signatures that declare containers, members and top-level elements. -/
inductive IsDeclaration (site : Site) : Text → Prop where
  | container (c : Container) : IsDeclaration site (container site c)
  | callable (e : Entity) (width : Int) : IsDeclaration site (callable site e width)
  | constructor (e : Entity) (width : Int) : IsDeclaration site (constructor site e width)
  | field (e : Entity) : IsDeclaration site (field site e)
  | variableOf (e : Entity) : IsDeclaration site (variableOf site e)
  | typeDefinition (e : Entity) (width : Int) : IsDeclaration site (typeDefinition site e width)

/-- Every signature keeps to the grammar. -/
theorem isMarkup_of_isDeclaration (hs : IsDeclaration site s) : IsMarkup P s := by
  cases hs with
  | container c => exact isMarkup_container hurls c
  | callable e width => exact isMarkup_callable hurls e width
  | constructor e width => exact isMarkup_constructor hurls e width
  | field e => exact isMarkup_field hurls e
  | variableOf e => exact isMarkup_variableOf hurls e
  | typeDefinition e width => exact isMarkup_typeDefinition hurls e width

end Declarations

end Signature

end ApiSite
