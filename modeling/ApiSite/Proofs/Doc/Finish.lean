import ApiSite.Doc.Documentation
import ApiSite.Proofs.Markup.Running
import ApiSite.Proofs.Sanitize.Plain

/-!
# Before and after the markup

Directives are resolved before a documentation text is read as markup, and what is written from it
is finished: prepared markup is put in and links are brought up to date, before the whole is made
safe. Each of these steps looks for a character that is rare in prose, and does nothing without it.
Only links into the documentation of embedders are completed wherever they stand
(`substitute_completeEmbedderLink`).
-/

set_option autoImplicit false

namespace ApiSite

open Markup

variable {t s : Text} {x : Char}

/-! ### Directives -/

namespace Doc

theorem digestBetween?_eq_none {before after : Text} (hx : x ∈ before) (ht : x ∉ t) :
    digestBetween? before after t = none := by
  rw [digestBetween?, Text.after?_eq_none hx ht]
  rfl

theorem markFragment_eq_none (ht : '<' ∉ t) : markFragment t = none := by
  rw [markFragment, digestBetween?_eq_none (x := '<') (by decide) ht]
  rfl

theorem dropTool_eq_none (hx : x ∈ ("\x7b@tool" : Text)) (ht : x ∉ t) : dropTool t = none := by
  have hblanks : x ∉ t.dropWhile (· == ' ') :=
    fun hmem ↦ ht ((List.dropWhile_suffix _).subset hmem)
  have hnone : afterTool? t = none := by
    rw [afterTool?, Text.after?_eq_none hx hblanks]
    rfl
  rw [dropTool, hnone]
  rfl

theorem resolveDirectives_eq_self (hangle : '<' ∉ t) (hpercent : '%' ∉ t) (hunder : '_' ∉ t)
    (hbrace : '\x7b' ∉ t) : resolveDirectives t = t := by
  have hbase : Text.replace baseMark [] t = t :=
    Text.replace_eq_self (x := '%') (by decide) hpercent
  have hparagraph : Text.replace paragraphMark [] t = t :=
    Text.replace_eq_self (x := '_') (by decide) hunder
  rw [resolveDirectives,
    Text.substitute_eq_self_of_not_mem (fun _ ↦ markFragment_eq_none) hangle, hbase, hparagraph,
    Text.substitute_eq_self_of_not_mem (fun _ ↦ dropTool_eq_none (by decide)) hbrace]

theorem insertFragment_eq_none {fragments : Text → Text} (ht : '\x7b' ∉ t) :
    insertFragment fragments t = none := by
  rw [insertFragment, digestBetween?_eq_none (x := '\x7b') (by decide) ht]
  rfl

/-! ### Links -/

theorem link?_eq_none_of_head? (ht : t.head? ≠ some '[') : link? t = none := by
  rw [link?.eq_def]
  split
  · exact absurd rfl ht
  · rfl

theorem mem_of_link? {label target rest : Text} (h : link? t = some (label, target, rest))
    (hx : x ∈ target) : x ∈ t := by
  rw [link?.eq_def] at h
  split at h
  · next u =>
    simp only [Option.bind_eq_bind, Option.bind_eq_some_iff] at h
    obtain ⟨after, hafter, h⟩ := h
    have hu := Text.eq_append_of_after? hafter
    split at h
    · split at h
      · cases h
      · cases h
        have hmem : x ∈ after := (List.takeWhile_prefix _).subset hx
        have hdrop : x ∈ u.drop (u.takeWhile (· != ']')).length := by
          rw [hu]
          exact List.mem_append_right _ hmem
        exact List.mem_cons_of_mem _ (List.mem_of_mem_drop hdrop)
    · cases h
  · cases h

theorem convertLink_eq_none (ht : '.' ∉ t) : convertLink t = none := by
  rw [convertLink]
  cases hlink : link? t with
  | none => rfl
  | some found =>
    obtain ⟨label, target, rest⟩ := found
    have htarget : Text.endsWith ".html" target = false := by
      rw [Text.endsWith, Bool.eq_false_iff, ne_eq, List.isSuffixOf_iff_suffix]
      exact fun hend ↦ ht (mem_of_link? hlink (hend.subset (by decide)))
    simp only [Option.bind_eq_bind, Option.bind_some, htarget, Bool.false_and, Bool.false_eq_true,
      if_false]

theorem convertLinks_eq_self (ht : '.' ∉ t) : convertLinks t = t :=
  Text.substitute_eq_self_of_not_mem (fun _ ↦ convertLink_eq_none) ht

theorem completeEmbedderLink_eq_none (ht : t.head? ≠ some '[') : completeEmbedderLink t = none := by
  rw [completeEmbedderLink, link?_eq_none_of_head? ht]
  rfl

/-- Whether a target leads into the documentation of embedders. -/
def isEmbedderTarget (href : Text) : Bool :=
  ((Text.after? "/javadoc/" href).or (Text.after? "/ios-embedder/" href)).any fun inside ↦
    !inside.isEmpty

/-- A target with the site that it is on, if that is the one of embedders. -/
def completed (href : Text) : Text :=
  if isEmbedderTarget href then embedderSite ++ href else href

/-- A reference as the writer leaves it. -/
def Resolution.written (letters : Text) : Resolution → Text
  | code => '\x60' :: letters ++ ['\x60']
  | link href => linkText letters href

/-- A reference as a page shows it. -/
def Resolution.shown (letters : Text) : Resolution → Text
  | code => '\x60' :: letters ++ ['\x60']
  | link href => linkText letters (completed href)

variable {letters href rest : Text}

theorem link?_linkText (hletters : ']' ∉ letters) (hhref : ')' ∉ href) (hne : letters ≠ []) :
    link? (linkText letters href ++ rest) =
      if href.isEmpty then none else some (letters, href, rest) := by
  have htext : linkText letters href ++ rest =
      '[' :: (letters ++ ']' :: '(' :: (href ++ ')' :: rest)) := by simp [linkText]
  have hlabel : (letters ++ ']' :: '(' :: (href ++ ')' :: rest)).takeWhile (· != ']') =
      letters := Text.takeWhile_append_stop hletters
  have htarget : (href ++ ')' :: rest).takeWhile (· != ')') = href :=
    Text.takeWhile_append_stop hhref
  have hafter : Text.after? "](" (']' :: '(' :: (href ++ ')' :: rest)) =
      some (href ++ ')' :: rest) := Text.after?_append "](" _
  have hempty : letters.isEmpty = false := by simpa using hne
  rw [htext, link?]
  simp only [hlabel, List.drop_left, hafter, Option.bind_eq_bind, Option.bind_some, htarget, hempty,
    Bool.false_or]

theorem completeEmbedderLink_linkText (hletters : ']' ∉ letters) (hhref : ')' ∉ href)
    (hne : letters ≠ []) :
    completeEmbedderLink (linkText letters href ++ rest) =
      if isEmbedderTarget href then
        some ((linkText letters href).length, linkText letters (embedderSite ++ href))
      else none := by
  have hsize : (linkText letters href ++ rest).length - rest.length =
      (linkText letters href).length := by simp
  rw [completeEmbedderLink, link?_linkText hletters hhref hne, isEmbedderTarget]
  cases href with
  | nil => rfl
  | cons c href =>
    simp only [List.isEmpty_cons, Bool.false_eq_true, if_false, Option.bind_eq_bind,
      Option.bind_some]
    cases ((Text.after? "/javadoc/" (c :: href)).or (Text.after? "/ios-embedder/" (c :: href))) with
    | none => rfl
    | some inside =>
      cases inside with
      | nil => rfl
      | cons d inside => simp [Text.upTo]

theorem substituteFrom_linkText (hletters : '[' ∉ letters) (hletters' : ']' ∉ letters)
    (hhref : '[' ∉ href) (hhref' : ')' ∉ href) (hne : letters ≠ []) :
    Text.substituteFrom completeEmbedderLink 0 (linkText letters href ++ rest) =
      linkText letters (completed href) ++ Text.substituteFrom completeEmbedderLink 0 rest := by
  obtain ⟨u, hlink, hu⟩ : ∃ u, linkText letters href = '[' :: u ∧ '[' ∉ u :=
    ⟨letters ++ "](" ++ href ++ ")", by simp [linkText], by simp [hletters, hhref]⟩
  have hrule : completeEmbedderLink ('[' :: (u ++ rest)) =
      if isEmbedderTarget href then
        some (u.length + 1, linkText letters (embedderSite ++ href))
      else none := by
    rw [← List.cons_append, ← hlink, completeEmbedderLink_linkText hletters' hhref' hne, hlink,
      List.length_cons]
  rw [hlink, List.cons_append, Text.substituteFrom, hrule, completed]
  cases isEmbedderTarget href with
  | true => simp only [if_true, Nat.add_sub_cancel, Text.substituteFrom_length]
  | false =>
    have hpast := @Text.substituteFrom_append_of_not_mem rest '[' completeEmbedderLink u
      (fun _ ↦ completeEmbedderLink_eq_none) hu
    simp only [Bool.false_eq_true, if_false, hpast, hlink]
    rfl

/-- **Of the references in a text, the links into the documentation of embedders are completed and
the others stay.** -/
theorem substitute_completeEmbedderLink {as : List Atom} {r : Text → Resolution}
    (has : IsSpelled as)
    (hhref : ∀ letters ∈ namesOf as, ∀ href, r letters = .link href → '[' ∉ href ∧ ')' ∉ href) :
    Text.substitute completeEmbedderLink (writtenWith (fun l ↦ (r l).written l) as) =
      writtenWith (fun l ↦ (r l).shown l) as := by
  rw [Text.substitute]
  induction as with
  | nil => rfl
  | cons a as ih =>
    have hrest := ih has.of_cons
    cases a with
    | char c =>
      have hc : '[' ∉ [c] := by
        intro hmem
        exact has.ne_of_char List.mem_cons_self rfl (by decide) (by decide)
          (List.mem_singleton.mp hmem).symm
      have hnames : namesOf (.char c :: as) = namesOf as := rfl
      rw [hnames] at hhref
      rw [writtenWith, List.flatMap_cons, Atom.written,
        Text.substituteFrom_append_of_not_mem (fun _ ↦ completeEmbedderLink_eq_none) hc,
        ← writtenWith, hrest hhref]
      rfl
    | name letters =>
      obtain ⟨hne, hletters⟩ := has.name List.mem_cons_self
      have hno {x : Char} (hx : x.isAlpha = false) : x ∉ letters :=
        Text.not_mem_of_all hletters hx
      have hlater := hrest fun l hl ↦ hhref l (List.mem_cons_of_mem _ hl)
      have hhere := hhref letters List.mem_cons_self
      rw [writtenWith, List.flatMap_cons, Atom.written, writtenWith, List.flatMap_cons,
        Atom.written, ← writtenWith, ← writtenWith, ← hlater]
      cases hr : r letters with
      | code =>
        refine Text.substituteFrom_append_of_not_mem (fun _ ↦ completeEmbedderLink_eq_none) ?_
        simpa [Resolution.written] using hno (x := '[') rfl
      | link href =>
        obtain ⟨hopen, hclose⟩ := hhere href hr
        exact substituteFrom_linkText (hno rfl) (hno rfl) hopen hclose hne

end Doc

end ApiSite
