import ApiSite.Proofs.Doc.Passages
import ApiSite.Proofs.Model.Loading

/-!
# Prepared markup in a documentation text

Markup that cannot be written in a documentation text is prepared apart from it, and a directive
names it by a digest. When a model is read, the letters of each digest are made small; in a text
only a directive whose letters are small already is looked for. So of passages
(`render_directives`) such a directive gives way to what the model has for its digest, whatever the
case of the key, and a directive with a capital in it stays, its tags escaped.

The mark that stands for a directive meanwhile crosses the reading and the writing of markup like a
word (`parse_joined`, `write_joined`). What is left to say here is what the replacements before and
after do: one piece of text between blank lines after the other (`Text.substitute_join`).
-/

set_option autoImplicit false

namespace ApiSite.Doc

open Markup Model

variable {d : Digest} {p : Passage} {ps : List Passage} {before after digits rest t : Text}
  {fragments : Text → Text} {c : Char}

/-! ### Digests between two texts -/

/-- A digest in small letters is found between the texts around it. -/
theorem digestBetween?_append (hdigits : digits.all isDigestChar = true) (hne : digits ≠ [])
    (hafter : ∀ c ∈ (after ++ rest).head?, isDigestChar c = false) :
    digestBetween? before after (before ++ digits ++ after ++ rest) = some (digits, rest) := by
  have hempty : digits.isEmpty = false := List.isEmpty_eq_false_iff.mpr hne
  have hspan : (digits ++ (after ++ rest)).takeWhile isDigestChar = digits :=
    Text.takeWhile_append_of_head? (List.all_eq_true.mp hdigits) hafter
  have hsplit : before ++ digits ++ after ++ rest = before ++ (digits ++ (after ++ rest)) := by simp
  rw [digestBetween?, hsplit, Text.after?_append]
  simp only [Option.bind_eq_bind, Option.bind_some, hspan, List.drop_left, Text.after?_append,
    hempty, Bool.false_eq_true, if_false]

/-- A digest in small letters gives way, with the texts around it, to what a replacement has for
it. -/
theorem substituteFrom_digest {value : Text → Text} (hsmall : d.isSmall = true)
    (hbefore : before ≠ []) (hafter : ∀ c ∈ (after ++ rest).head?, isDigestChar c = false) :
    let rule : Text.Rule := fun t ↦ (digestBetween? before after t).map fun (digest, rest) ↦
      Text.upTo t rest (value digest)
    Text.substituteFrom rule 0 (before ++ d.digits ++ after ++ rest) =
      value d.digits ++ Text.substituteFrom rule 0 rest := by
  intro rule
  have hrule : rule (before ++ d.digits ++ after ++ rest) =
      some ((before ++ d.digits ++ after).length, value d.digits) := by
    simp only [rule, digestBetween?_append hsmall d.digits_ne_nil hafter, Option.map_some,
      Text.upTo_append]
  exact Text.substituteFrom_of_rule (by simp [hbefore]) hrule

/-- A digest with a capital is found between no texts. -/
theorem digestBetween?_eq_none_of_not_isSmall (hsmall : d.isSmall = false)
    (hafter : ∃ x ∈ after.head?, x.isAlphanum = false) :
    digestBetween? before after (before ++ (d.digits ++ t)) = none := by
  obtain ⟨x, hhead, hx⟩ := hafter
  obtain ⟨s, rfl⟩ := List.head?_eq_some_iff.mp hhead
  obtain ⟨c, hfound⟩ : ∃ c, d.digits.find? (!isDigestChar ·) = some c := by
    rw [← Option.isSome_iff_exists, List.find?_isSome]
    simpa [Digest.isSmall] using hsmall
  obtain ⟨hc, small, capital, hdigits, hall⟩ := List.find?_eq_some_iff_append.mp hfound
  have hspan : (d.digits ++ t).takeWhile isDigestChar = small := by
    rw [hdigits, List.append_assoc]
    refine Text.takeWhile_append_of_head? (fun a ha ↦ by simpa using hall a ha) fun
      | _, rfl => by simpa using hc
  have hdrop : (d.digits ++ t).drop small.length = c :: (capital ++ t) := by
    rw [hdigits, List.append_assoc, List.drop_left, List.cons_append]
  have hne : x ≠ c := by
    rintro rfl
    exact not_mem_digits hx (by rw [hdigits]; simp)
  rw [digestBetween?, Text.after?_append]
  simp only [Option.bind_eq_bind, Option.bind_some, hspan, hdrop, Text.after?, if_neg hne,
    Option.bind_none]

/-! ### Directives -/

theorem markFragment_eq :
    markFragment t = (digestBetween? openTag closeTag t).map fun (digest, rest) ↦
      Text.upTo t rest (fragmentMark digest) := rfl

theorem markFragment_eq_none_of_head? (ht : t.head? ≠ some '<') : markFragment t = none := by
  have hafter : Text.after? openTag t = none := by
    cases t with
    | nil => rfl
    | cons c t =>
      have hc : '<' ≠ c := fun heq ↦ ht (heq ▸ rfl)
      exact if_neg hc
  rw [markFragment_eq, digestBetween?, hafter]
  rfl

/-- Past a text without an angle bracket nothing is marked. -/
theorem substituteFrom_markFragment_append (ht : '<' ∉ t) :
    Text.substituteFrom markFragment 0 (t ++ rest) =
      t ++ Text.substituteFrom markFragment 0 rest :=
  Text.substituteFrom_append_of_not_mem (fun _ ↦ markFragment_eq_none_of_head?) ht

/-- A directive in small letters gives way to its mark, and any other one stays. -/
theorem substituteFrom_markFragment_directive :
    Text.substituteFrom markFragment 0 (d.directive ++ rest) =
      (Passage.directive d).marked ++ Text.substituteFrom markFragment 0 rest := by
  rw [Passage.marked]
  cases hsmall : d.isSmall with
  | true =>
    refine substituteFrom_digest hsmall (by decide) ?_
    rintro c ⟨rfl⟩
    rfl
  | false =>
    have hbetween := @digestBetween?_eq_none_of_not_isSmall d openTag closeTag (closeTag ++ rest)
      hsmall ⟨'<', rfl, rfl⟩
    have hopen : markFragment (openTag ++ (d.digits ++ (closeTag ++ rest))) = none := by
      rw [markFragment_eq, hbetween]
      rfl
    have hclose : markFragment (closeTag ++ rest) = none := rfl
    -- no rule applies at either bracket, and between them there is none
    have hpast {u t : Text} (hu : '<' ∉ u) (hrule : markFragment ('<' :: (u ++ t)) = none) :
        Text.substituteFrom markFragment 0 ('<' :: (u ++ t)) =
          '<' :: u ++ Text.substituteFrom markFragment 0 t := by
      rw [Text.substituteFrom, hrule]
      simp only
      rw [substituteFrom_markFragment_append hu, List.cons_append]
    have hfirst : Text.substituteFrom markFragment 0 (openTag ++ (d.digits ++ (closeTag ++ rest))) =
        openTag ++ Text.substituteFrom markFragment 0 (d.digits ++ (closeTag ++ rest)) :=
      hpast (u := "dartdoc-html>") (by decide) hopen
    have hlast : Text.substituteFrom markFragment 0 (closeTag ++ rest) =
        closeTag ++ Text.substituteFrom markFragment 0 rest :=
      hpast (u := "/dartdoc-html>") (by decide) hclose
    rw [if_neg Bool.false_ne_true, Digest.directive, List.append_assoc, List.append_assoc, hfirst,
      substituteFrom_markFragment_append (not_mem_digits rfl), hlast, List.append_assoc,
      List.append_assoc]

theorem substitute_markFragment :
    Text.substitute markFragment (joined Passage.source ps) = joined Passage.marked ps := by
  refine Text.substitute_join (fun p _ rest _ ↦ ?_) fun rest ↦
    substituteFrom_markFragment_append (by decide)
  cases p with
  | prose p =>
    refine substituteFrom_markFragment_append ?_
    rw [Passage.source, ← Paragraph.writtenWith_atoms]
    exact (Paragraph.isRunning_atoms p).not_mem rfl
  | directive d => exact substituteFrom_markFragment_directive

/-- Blank lines after a passage do not go on with a text that has none. -/
theorem forall_head?_not_mem {start : Text} (hfeed : '\n' ∉ start)
    (hrest : rest = [] ∨ ['\n', '\n'] <+: rest) : ∀ c ∈ rest.head?, c ∉ start := by
  rcases hrest with rfl | ⟨s, rfl⟩
  · exact fun c hc ↦ absurd hc (by simp)
  · rintro c ⟨rfl⟩
    exact hfeed

/-- A passage lacks a character of the mark between paragraphs. -/
theorem exists_not_mem_marked (p : Passage) : ∃ x ∈ paragraphMark, x ∉ p.marked := by
  cases p with
  | prose p =>
    rw [Passage.marked, ← Paragraph.writtenWith_atoms]
    exact ⟨'_', by decide, (Paragraph.isRunning_atoms p).not_mem rfl⟩
  | directive d =>
    rw [Passage.marked]
    cases hsmall : d.isSmall with
    | true =>
      have hall : ∀ c ∈ d.digits, isDigestChar c = true := List.all_eq_true.mp hsmall
      have hdigits : 'P' ∉ d.digits := Text.not_mem_of_all hall rfl
      exact ⟨'P', by decide, not_mem_between (by decide) (by decide) hdigits⟩
    | false =>
      refine ⟨'_', by decide, ?_⟩
      rw [if_neg Bool.false_ne_true, Digest.directive]
      exact not_mem_between (by decide) (by decide) (not_mem_digits rfl)

theorem replace_paragraphMark :
    Text.replace paragraphMark [] (joined Passage.marked ps) = joined Passage.marked ps := by
  let rule : Text.Rule := fun s ↦
    if Text.startsWith paragraphMark s then some (paragraphMark.length, []) else none
  have hrule (s : Text) (hs : ¬paragraphMark <+: s) : rule s = none :=
    if_neg (by rwa [Text.startsWith, List.isPrefixOf_iff_prefix])
  rw [Text.replace_eq_substitute]
  refine Text.substitute_join (fun p _ rest hrest ↦ ?_) fun rest ↦ ?_
  · obtain ⟨x, hx, hp⟩ := exists_not_mem_marked p
    exact Text.substituteFrom_append_of_not_prefix hrule hx hp
      (forall_head?_not_mem (by decide) hrest)
  · refine Text.substituteFrom_append_of_not_mem (x := 'D') (fun s hs ↦ hrule s ?_) (by decide)
    rintro ⟨after, rfl⟩
    exact hs rfl

/-- **Before a text is read as markup, marks have taken the place of its directives in small
letters.** -/
theorem resolveDirectives_joined :
    resolveDirectives (joined Passage.source ps) = joined Passage.marked ps := by
  have hno {x : Char} (hx : isPassageChar x = false) : x ∉ joined Passage.marked ps :=
    Text.not_mem_of_all (fun _ ↦ isPassageChar_joined) hx
  have hbase : Text.replace baseMark [] (joined Passage.marked ps) = joined Passage.marked ps :=
    Text.replace_eq_self (x := '%') (by decide) (hno rfl)
  rw [resolveDirectives, substitute_markFragment, hbase, replace_paragraphMark,
    Text.substitute_eq_self_of_not_mem (fun _ ↦ dropTool_eq_none (x := '@') (by decide)) (hno rfl)]

/-! ### Prepared markup -/

/-- A passage as a page shows it before links are brought up to date: its names by `f`, and a
directive in small letters by the markup that is prepared for its digest. -/
def Passage.shown (fragments : Text → Text) (safeTags : List Text) (f : Text → Text) :
    Passage → Text
  | prose p => Paragraph.written f p
  | directive d => if d.isSmall then fragments d.digits else d.left safeTags

/-- What a mark begins with. -/
def markStart : Text := "DARTDOC_INJECT\x7b"

/-- What a mark ends with. -/
def markEnd : Text := "\x7d"

theorem insertFragment_eq :
    insertFragment fragments t = (digestBetween? markStart markEnd t).map fun (digest, rest) ↦
      Text.upTo t rest (fragments digest) := rfl

theorem insertFragment_eq_none_of_not_prefix (ht : ¬markStart <+: t) :
    insertFragment fragments t = none := by
  rw [insertFragment_eq, digestBetween?, Text.after?_eq_none_of_not_prefix ht]
  rfl

theorem substituteFrom_insertFragment_mark (hsmall : d.isSmall = true) :
    Text.substituteFrom (insertFragment fragments) 0 (fragmentMark d.digits ++ rest) =
      fragments d.digits ++ Text.substituteFrom (insertFragment fragments) 0 rest := by
  refine substituteFrom_digest hsmall (by decide) ?_
  rintro c ⟨rfl⟩
  rfl

variable {f : Text → Text} {safeTags : List Text}

/-- **Prepared markup takes the place of the marks, and everything else stays.** -/
theorem substitute_insertFragment
    (hprose : ∀ p, .prose p ∈ ps → '\x7b' ∉ Paragraph.written f p) :
    Text.substitute (insertFragment fragments) (joined (Passage.written safeTags f) ps) =
      joined (Passage.shown fragments safeTags f) ps := by
  have hpast {t rest : Text} (ht : '\x7b' ∉ t) (hrest : rest = [] ∨ ['\n', '\n'] <+: rest) :
      Text.substituteFrom (insertFragment fragments) 0 (t ++ rest) =
        t ++ Text.substituteFrom (insertFragment fragments) 0 rest :=
    Text.substituteFrom_append_of_not_prefix (fun _ ↦ insertFragment_eq_none_of_not_prefix)
      (by decide) ht (forall_head?_not_mem (by decide) hrest)
  refine Text.substitute_join (fun p hp rest hrest ↦ ?_) fun rest ↦ ?_
  · cases p with
    | prose p => exact hpast (hprose p hp) hrest
    | directive d =>
      rw [Passage.written, Passage.shown]
      cases hsmall : d.isSmall with
      | true => exact substituteFrom_insertFragment_mark hsmall
      | false =>
        refine hpast ?_ hrest
        rw [if_neg Bool.false_ne_true, Digest.left]
        split
        · exact not_mem_between (by decide) (by decide) (not_mem_digits rfl)
        · exact not_mem_between (by decide) (by decide) (not_mem_digits rfl)
  · refine Text.substituteFrom_append_of_not_mem (x := 'D')
      (fun s hs ↦ insertFragment_eq_none_of_not_prefix ?_) (by decide)
    rintro ⟨after, rfl⟩
    exact hs rfl

/-! ### Rendering -/

variable {site : Site} {e : Entity} {r : Text → Resolution} {progress : Progress}

/-- What becomes of a text in which prepared markup has been put: its links are brought up to date,
and the whole is made safe. -/
def polish (site : Site) (t : Text) : Text × List Sanitize.Removal :=
  Sanitize.sanitize site.frameHosts (Text.substitute completeEmbedderLink (convertLinks t))

theorem finish_eq_polish :
    finish site t = polish site (Text.substitute (insertFragment site.model.fragment) t) := rfl

/-- Passages as a page shows them before links are brought up to date. -/
def shownPassages (site : Site) (fragments : Text → Text) (r : Text → Resolution)
    (ps : List Passage) : Text :=
  joined (Passage.shown fragments site.style.safeTags fun l ↦ (r l).written l) ps

theorem isAlpha_of_mem_names_passage {letters : Text} (hl : letters ∈ ps.flatMap Passage.names) :
    letters ≠ [] ∧ ∀ c ∈ letters, c.isAlpha = true := by
  obtain ⟨p, -, hl⟩ := List.mem_flatMap.mp hl
  cases p with
  | prose p => exact (Paragraph.isRunning_atoms p).name (mem_namesOf.mp hl)
  | directive d => cases hl

theorem brace_not_mem_prose (h : Answers site.location e (ps.flatMap Passage.names) r)
    {p : Paragraph} (hp : .prose p ∈ ps) :
    '\x7b' ∉ Paragraph.written (fun l ↦ (r l).written l) p := by
  let d : Prose := ⟨p, []⟩
  have hnames : d.names = namesOf (Paragraph.atoms p) := by
    rw [← Prose.flatMap_namesOf]
    exact List.append_nil _
  have hanswers : Answers site.location e d.names r :=
    h.mono fun l hl ↦ List.mem_flatMap.mpr ⟨_, hp, by rwa [hnames] at hl⟩
  have hwritten : d.written (fun l ↦ (r l).written l) =
      Paragraph.written (fun l ↦ (r l).written l) p := List.append_nil _
  rw [← hwritten]
  exact not_mem_written rfl fun l hl ↦ not_mem_reference_written hanswers hl rfl rfl

theorem parse_directives (hne : ps ≠ []) (hdoc : e.info.documentation = joined Passage.source ps)
    (h : Answers site.location e (ps.flatMap Passage.names) r) :
    parse site e = ⟨.mk "div" [] none
      ((Inline.numbered Passage.raw 0 ps).map fun q ↦ q.2.element (fun l ↦ (r l).element l) q.1)
        none, ps.flatMap Passage.raw, ps.flatMap Passage.names, true⟩ := by
  rw [parse, hdoc, resolveDirectives_joined]
  exact parse_joined hne (fun l hl ↦ elementFor_eq h hl (isAlpha_of_mem_names_passage hl).1)
    fun l hl ↦ (shows h hl (isAlpha_of_mem_names_passage hl).2).isAnswer

/-- The run that renders passages: their references are counted, and what is removed to make them
safe. -/
theorem runOn_render_directives (hne : ps ≠ [])
    (hdoc : e.info.documentation = joined Passage.source ps)
    (h : Answers site.location e (ps.flatMap Passage.names) r) :
    (render site e).runOn progress =
      (.ok (polish site (shownPassages site site.model.fragment r ps)).1,
        ((ps.flatMap Passage.names).foldl (asked e) progress).remove
          (polish site (shownPassages site site.model.fragment r ps)).2) := by
  have hloop (progress : Progress) := runOn_forIn_recordReference (p := progress)
    (fun l hl ↦ (isAlpha_of_mem_names_passage hl).1) h.resolves
  have hempty : (joined Passage.source ps).isEmpty = false := by
    have hresolve := @resolveDirectives_joined ps
    have hblank := (isUnfenced_joined hne).notBlank
    cases hsource : joined Passage.source ps with
    | nil =>
      rw [← hresolve, hsource] at hblank
      exact absurd hblank (by decide)
    | cons c t => rfl
  have hwrite := @write_joined ps (fun l ↦ (r l).element l) (fun l ↦ (r l).written l) site.style
    hne fun l hl ↦ shows h hl (isAlpha_of_mem_names_passage hl).2
  have hfinish : finish site (joined (Passage.written site.style.safeTags
      fun l ↦ (r l).written l) ps) = polish site (shownPassages site site.model.fragment r ps) := by
    rw [finish_eq_polish, substitute_insertFragment fun p hp ↦ brace_not_mem_prose h hp]
    rfl
  rw [render, hdoc, hempty, if_neg Bool.false_ne_true, parse_directives hne hdoc h]
  simp only [ExceptT.runOn_bind, hloop, Bool.not_true, Bool.false_eq_true, if_false,
    ExceptT.runOn_pure, hwrite, hfinish, ExceptT.runOn_modify]

/-- **A directive in small letters gives way to the markup that the model has for its digest, in
whatever case that is written as a key; one with a capital in it stays, its tags escaped.** The
passages around them are rendered as without directives, and no mark is left. -/
theorem render_directives {doc entries : Entries} (site : Site) (e : Entity) (ps : List Passage)
    (r : Text → Resolution) (hmodel : (Model.ofValue (.mapping doc)).1 = .ok site.model)
    (hentries : doc.get "html_fragments" = .mapping entries) (hne : ps ≠ [])
    (hdoc : e.info.documentation = joined Passage.source ps)
    (h : Answers site.location e (ps.flatMap Passage.names) r) (progress : Progress) :
    ((render site e).runOn progress).1 =
      .ok (polish site (shownPassages site (lastFragment entries) r ps)).1 := by
  have hfragment : site.model.fragment = lastFragment entries :=
    funext fun digest ↦ Model.fragment_of_ofValue hmodel hentries digest
  rw [runOn_render_directives hne hdoc h, hfragment]

def peelDoc : Entries :=
  [(.text "html_fragments", .record [("ABC123", .text "<b>x</b>")]),
    (.text "package", .record [("name", .text "kit"), ("libraries", .list [.record [
      ("name", .text "kit"), ("containers", .list [.record [("name", .text "Peel"),
        ("kind", .text "class"), ("documentation", .text peelText)]])]])])]
where
  peelText : Text :=
    "zest\n\n<dartdoc-html>abc123</dartdoc-html>\n\n<dartdoc-html>ABC123</dartdoc-html>"

def peelClass : Container := { name := "Peel", kind := "class", documentation := peelDoc.peelText }

def peelLibrary : Library :=
  { name := "kit", kind := "library", dirName := "kit", containers := [peelClass] }

def peelPackage : Package := { name := "kit", kind := "package", libraries := [peelLibrary] }

def peelSite : Site where
  model := ⟨[peelPackage], [("abc123", "<b>x</b>")], "kit"⟩
  location := { rules := ⟨[], [], [], []⟩ }
  style := .of [] []
  frameHosts := []
  wrapWidth := 80
  outlineThreshold := none

def peel : Entity :=
  ⟨.container 0 0 0, .container peelClass, [.library peelLibrary, .package peelPackage]⟩

def peelPassages : List Passage :=
  [.prose ⟨⟨.plain zest, []⟩, []⟩, .directive small, .directive capital]
where
  zest : Word := ⟨"zest", by decide, List.all_eq_true.mp rfl⟩
  small : Digest := ⟨"abc123", by decide, List.all_eq_true.mp rfl⟩
  capital : Digest := ⟨"ABC123", by decide, List.all_eq_true.mp rfl⟩

theorem render_directives_peel :
    (Model.ofValue (.mapping peelDoc)).1 = .ok peelSite.model ∧
      peelSite.model.entity? (.container 0 0 0) = some peel ∧
      peel.info.documentation = joined Passage.source peelPassages ∧
      ((render peelSite peel).runOn {}).1 =
        .ok "zest\n\n<b>x</b>\n\n&lt;dartdoc-html&gt;ABC123&lt;/dartdoc-html&gt;" := by
  have hmodel : (Model.ofValue (.mapping peelDoc)).1 = .ok peelSite.model := rfl
  have hdoc : peel.info.documentation = joined Passage.source peelPassages := by decide
  have hanswers : Answers peelSite.location peel (peelPassages.flatMap Passage.names)
      fun _ ↦ .code :=
    ⟨fun l hl ↦ absurd hl List.not_mem_nil, fun l hl ↦ absurd hl List.not_mem_nil⟩
  have hrender := render_directives peelSite peel peelPassages (fun _ ↦ .code) hmodel rfl
    (List.cons_ne_nil _ _) hdoc hanswers {}
  refine ⟨hmodel, rfl, hdoc, hrender.trans (congrArg Except.ok ?_)⟩
  decide +kernel

end ApiSite.Doc
