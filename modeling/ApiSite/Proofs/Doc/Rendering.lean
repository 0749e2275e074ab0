import ApiSite.Location.Assignment
import ApiSite.Proofs.Doc.Finish
import ApiSite.Proofs.Doc.Prose
import ApiSite.Proofs.Markup.Writer
import ApiSite.Proofs.Model.Entities
import ApiSite.Proofs.Model.Loading
import ApiSite.Proofs.Running

/-!
# Rendering prose

Prose with references is rendered as itself, with each reference replaced where it stands by what
the resolver makes of its name: a link, or code.
-/

set_option autoImplicit false

namespace ApiSite.Doc

open Markup Model

/-- A character of the targets that are written without any escape. -/
def isTargetChar (c : Char) : Bool :=
  c.isAlphanum || c == '/' || c == '_' || c == '-' || c == '#'

/-- The resolver has an answer for each name of a text, with targets that need no escape. -/
structure Answers (loc : Location) (e : Entity) (names : List Text) (r : Text → Resolution) :
    Prop where
  resolves : ∀ letters ∈ names, resolve loc e (Reference.parse letters) = .ok (r letters)
  targets : ∀ letters ∈ names, ∀ href, r letters = .link href →
    ∀ c ∈ href, isTargetChar c = true

/-- A reference counted. -/
def asked (e : Entity) (p : Progress) (letters : Text) : Progress :=
  let ref := Reference.parse letters
  p.record (if ref.name.isEmpty then letters else ref.name) (lookUp? e ref).isSome

variable {site : Site} {loc : Location} {e : Entity} {d : Prose} {r : Text → Resolution}
  {letters : Text} {names : List Text} {p : Progress} {x : Char}

/-! ### Answers -/

theorem isAlpha_of_mem_names (hl : letters ∈ d.names) :
    letters ≠ [] ∧ ∀ c ∈ letters, c.isAlpha = true := by
  rw [← Prose.namesOf_atoms] at hl
  exact d.isSpelled_atoms.name (mem_namesOf.mp hl)

theorem element_eq (hletters : ∀ c ∈ letters, c.isAlpha = true) (a : Resolution) :
    a.element letters = match a with
      | .code => .ofText "code" letters
      | .link href => .mk "a" [("href", some href)] (some letters) [] none := by
  have hno {x : Char} (hx : x.isAlpha = false) : x ∉ letters :=
    Text.not_mem_of_all hletters hx
  cases a with
  | code =>
    have hescape : Block.escapeCode letters = letters := by
      refine Text.escapeWith_eq_self fun c hc ↦ ?_
      rw [if_neg (ne_of_mem_of_not_mem hc (hno rfl)), if_neg (ne_of_mem_of_not_mem hc (hno rfl)),
        if_neg (ne_of_mem_of_not_mem hc (hno rfl))]
    rw [Resolution.element, hescape]
  | link href =>
    have hescape : escapeLabel letters = letters := by
      have hopen : Text.replace "<" "\\<" letters = letters :=
        Text.replace_eq_self (x := '<') (by decide) (hno rfl)
      have hclose : Text.replace ">" "\\>" letters = letters :=
        Text.replace_eq_self (x := '>') (by decide) (hno rfl)
      rw [escapeLabel, hopen, hclose]
    rw [Resolution.element, hescape]

theorem shows (h : Answers loc e names r) (hl : letters ∈ names)
    (hletters : ∀ c ∈ letters, c.isAlpha = true) :
    Writer.Shows letters ((r letters).element letters) ((r letters).written letters) := by
  rw [element_eq hletters]
  cases hr : r letters with
  | code => exact .code
  | link href =>
    have hhref := h.targets letters hl href hr
    exact .link href (Text.not_mem_of_all hhref rfl) (Text.not_mem_of_all hhref rfl)
      (Text.not_mem_of_all hhref rfl)

theorem Answers.mono {names' : List Text} (h : Answers loc e names r)
    (hsub : ∀ letters ∈ names', letters ∈ names) : Answers loc e names' r :=
  ⟨fun letters hl ↦ h.resolves letters (hsub letters hl),
    fun letters hl ↦ h.targets letters (hsub letters hl)⟩

/-- The element that a reader is given for a name that has an answer. -/
theorem elementFor_eq (h : Answers loc e names r) (hl : letters ∈ names) (hne : letters ≠ []) :
    (elementFor loc e letters).toOption.join = some ((r letters).element letters) := by
  have hempty : letters.isEmpty = false := by simpa using hne
  rw [elementFor, hempty, if_neg Bool.false_ne_true, h.resolves letters hl]
  rfl

/-! ### The written text -/

theorem not_mem_written {f : Text → Text} (hplain : isPlain x = false)
    (hf : ∀ letters ∈ d.names, x ∉ f letters) : x ∉ d.written f := by
  rw [← Prose.writtenWith_atoms]
  intro hx
  obtain ⟨a, ha, hx⟩ := List.mem_flatMap.mp hx
  cases a with
  | char c => exact d.isSpelled_atoms.not_mem hplain (List.mem_flatMap.mpr ⟨_, ha, hx⟩)
  | name letters =>
    refine hf letters ?_ hx
    rw [← Prose.namesOf_atoms]
    exact mem_namesOf.mpr ha

/-- A character that is neither of prose nor around a reference. -/
def isForeignChar (c : Char) : Bool := !(isPlain c || c == '\x60' || c == '(' || c == ')')

theorem isPlain_eq_false (hx : isForeignChar x = true) : isPlain x = false := by
  simp only [isForeignChar, Bool.not_eq_true', Bool.or_eq_false_iff] at hx
  exact hx.1.1.1

theorem not_mem_name (hl : letters ∈ d.names) (hx : isPlain x = false) : x ∉ letters := by
  intro hmem
  rw [isPlain, (isAlpha_of_mem_names hl).2 x hmem] at hx
  cases hx

theorem not_mem_code (hl : letters ∈ d.names) (hx : isForeignChar x = true) :
    x ∉ '\x60' :: letters ++ ['\x60'] := by
  have hletters := not_mem_name hl (isPlain_eq_false hx)
  have htick : x ≠ '\x60' := by
    rintro rfl
    cases hx
  simp [hletters, htick]

theorem not_mem_linkText {target : Text} (hl : letters ∈ d.names) (hx : isForeignChar x = true)
    (htarget : x ∉ target) : x ∉ linkText letters target := by
  have hletters := not_mem_name hl (isPlain_eq_false hx)
  have hne {c : Char} (hc : isForeignChar c = false) : x ≠ c := by
    rintro rfl
    rw [hx] at hc
    cases hc
  have hopen : x ≠ '[' := hne rfl
  have hclose : x ≠ ']' := hne rfl
  have hparen : x ≠ '(' := hne rfl
  have hparen' : x ≠ ')' := hne rfl
  simp [linkText, hletters, htarget, hopen, hclose, hparen, hparen']

theorem not_mem_reference_written (h : Answers loc e d.names r) (hl : letters ∈ d.names)
    (hx : isForeignChar x = true) (htarget : isTargetChar x = false) :
    x ∉ (r letters).written letters := by
  cases hr : r letters with
  | code => exact not_mem_code hl hx
  | link href =>
    exact not_mem_linkText hl hx (Text.not_mem_of_all (h.targets letters hl href hr) htarget)

theorem not_mem_reference_shown (h : Answers loc e d.names r) (hl : letters ∈ d.names)
    (hx : isForeignChar x = true) (htarget : isTargetChar x = false) (hsite : x ∉ embedderSite) :
    x ∉ (r letters).shown letters := by
  cases hr : r letters with
  | code => exact not_mem_code hl hx
  | link href =>
    have hhref := Text.not_mem_of_all (h.targets letters hl href hr) htarget
    refine not_mem_linkText hl hx ?_
    rw [completed]
    split
    · exact fun hmem ↦ (List.mem_append.mp hmem).elim hsite hhref
    · exact hhref

theorem finish_written (h : Answers loc e d.names r) :
    finish site (d.written fun l ↦ (r l).written l) = (d.written fun l ↦ (r l).shown l, []) := by
  have hwritten {x : Char} (hx : isForeignChar x = true) (htarget : isTargetChar x = false) :
      x ∉ d.written fun l ↦ (r l).written l :=
    not_mem_written (isPlain_eq_false hx) fun l hl ↦ not_mem_reference_written h hl hx htarget
  have hshown {x : Char} (hx : isForeignChar x = true) (htarget : isTargetChar x = false)
      (hsite : x ∉ embedderSite) : x ∉ d.written fun l ↦ (r l).shown l :=
    not_mem_written (isPlain_eq_false hx) fun l hl ↦ not_mem_reference_shown h hl hx htarget hsite
  have hfragments :
      Text.substitute (insertFragment site.model.fragment) (d.written fun l ↦ (r l).written l) =
        d.written fun l ↦ (r l).written l :=
    Text.substitute_eq_self_of_not_mem (fun _ ↦ insertFragment_eq_none) (hwritten rfl rfl)
  have hcomplete : Text.substitute completeEmbedderLink (d.written fun l ↦ (r l).written l) =
      d.written fun l ↦ (r l).shown l := by
    rw [← Prose.writtenWith_atoms, ← Prose.writtenWith_atoms]
    refine substitute_completeEmbedderLink d.isSpelled_atoms fun l hl href hr ↦ ?_
    rw [Prose.namesOf_atoms] at hl
    have hhref := h.targets l hl href hr
    exact ⟨Text.not_mem_of_all hhref rfl, Text.not_mem_of_all hhref rfl⟩
  rw [finish, hfragments, convertLinks_eq_self (hwritten rfl rfl), hcomplete]
  exact Sanitize.sanitize_eq_self (hshown rfl rfl (by decide)) (hshown rfl rfl (by decide))
    (hshown rfl rfl (by decide)) (hshown rfl rfl (by decide)) (hshown rfl rfl (by decide))

/-! ### The run -/

theorem runOn_recordReference {a : Resolution} (hne : letters ≠ [])
    (ha : resolve loc e (Reference.parse letters) = .ok a) :
    (recordReference loc e letters).runOn p = (.ok (), asked e p letters) := by
  have hempty : letters.isEmpty = false := by simpa using hne
  rw [recordReference, hempty, if_neg Bool.false_ne_true]
  simp [ha, asked]

theorem runOn_forIn_recordReference (hne : ∀ letters ∈ names, letters ≠ [])
    (hr : ∀ letters ∈ names, resolve loc e (Reference.parse letters) = .ok (r letters)) :
    (forIn names PUnit.unit fun letters _ ↦ do
      recordReference loc e letters
      pure (ForInStep.yield PUnit.unit) : Rendering PUnit).runOn p =
        (.ok PUnit.unit, names.foldl (asked e) p) := by
  induction names generalizing p with
  | nil => rfl
  | cons letters names ih =>
    rw [List.forIn_cons]
    simp only [ExceptT.runOn_bind, ExceptT.runOn_pure,
      runOn_recordReference (hne letters List.mem_cons_self) (hr letters List.mem_cons_self)]
    exact ih (fun l hl ↦ hne l (List.mem_cons_of_mem _ hl))
      fun l hl ↦ hr l (List.mem_cons_of_mem _ hl)

theorem isPlain_source (hx : x ∈ d.source) : isPlain x = true := by
  rw [Prose.source, ← Prose.writtenWith_atoms] at hx
  exact d.isSpelled_atoms.isPlain hx

theorem source_isEmpty : d.source.isEmpty = false := by
  have hblank := isBlankText_sourceOfAll d.paragraphs_ne_nil d.isRunning_paragraphs
  rw [Prose.sourceOfAll_paragraphs] at hblank
  cases hsource : d.source with
  | nil =>
    rw [hsource] at hblank
    cases hblank
  | cons c t => rfl

theorem parse_prose (hdoc : e.info.documentation = d.source)
    (h : Answers site.location e d.names r) :
    parse site e =
      ⟨.mk "div" [] none (d.paragraphs.map (Inline.paragraphOf fun l ↦ (r l).element l)) none, [],
        d.names, true⟩ := by
  have hdirectives : resolveDirectives d.source = d.source := by
    have hno {x : Char} (hx : isPlain x = false) : x ∉ d.source :=
      Text.not_mem_of_all (fun _ ↦ isPlain_source) hx
    exact resolveDirectives_eq_self (hno rfl) (hno rfl) (hno rfl) (hno rfl)
  have hresolve : ∀ l ∈ d.paragraphs.flatMap namesOf,
      (elementFor site.location e l).toOption.join = some ((r l).element l) := by
    intro l hl
    rw [Prose.flatMap_namesOf] at hl
    exact elementFor_eq h hl (isAlpha_of_mem_names hl).1
  have hanswer : ∀ l ∈ d.paragraphs.flatMap namesOf, IsAnswer l ((r l).element l) := by
    intro l hl
    rw [Prose.flatMap_namesOf] at hl
    exact (shows h hl (isAlpha_of_mem_names hl).2).isAnswer
  have hparse := parse_paragraphs d.paragraphs_ne_nil d.isRunning_paragraphs hresolve hanswer
  rw [Prose.sourceOfAll_paragraphs, Prose.flatMap_namesOf] at hparse
  rw [parse, hdoc, hdirectives]
  exact hparse

theorem remove_nil : p.remove [] = p := by
  cases p
  simp [Progress.remove]

theorem write_prose {style : Writer.Style} (h : Answers loc e d.names r) :
    Writer.write style (.mk "div" [] none
        (d.paragraphs.map (Inline.paragraphOf fun l ↦ (r l).element l)) none) [] =
      .ok (d.written fun l ↦ (r l).written l) := by
  rw [← Prose.join_paragraphs]
  refine Writer.write_paragraphs d.paragraphs_ne_nil d.isRunning_paragraphs fun l hl ↦ ?_
  rw [Prose.flatMap_namesOf] at hl
  exact shows h hl (isAlpha_of_mem_names hl).2

/-- The run that renders prose: its references are counted in turn, and nothing else is. -/
theorem runOn_render_prose (hdoc : e.info.documentation = d.source)
    (h : Answers site.location e d.names r) :
    (render site e).runOn p =
      (.ok (d.written fun l ↦ (r l).shown l), d.names.foldl (asked e) p) := by
  have hloop (p : Progress) := runOn_forIn_recordReference (p := p)
    (fun l hl ↦ (isAlpha_of_mem_names hl).1) h.resolves
  rw [render, hdoc, source_isEmpty, if_neg Bool.false_ne_true, parse_prose hdoc h]
  simp only [ExceptT.runOn_bind, hloop, Bool.not_true, Bool.false_eq_true, if_false,
    ExceptT.runOn_pure, write_prose h, finish_written h, ExceptT.runOn_modify, remove_nil]

/-- Each reference adds one to the count, whatever it leads to. -/
theorem references_foldl_asked :
    (names.foldl (asked e) p).stats.references = p.stats.references + names.length := by
  induction names generalizing p with
  | nil => rfl
  | cons letters names ih =>
    have hone : (asked e p letters).stats.references = p.stats.references + 1 := by
      rw [asked, Progress.record, Stats.record]
      split <;> rfl
    rw [List.foldl_cons, ih, hone, List.length_cons]
    omega

/-- **Prose with references is rendered as itself.** Each name in brackets gives way, where it
stands, to what the resolver makes of it; the resolver is asked once for each, in their order, and
as many references are counted. -/
theorem render_prose (site : Site) (e : Entity) (d : Prose) (r : Text → Resolution)
    (hdoc : e.info.documentation = d.source) (h : Answers site.location e d.names r)
    (p : Progress) :
    ((render site e).runOn p).1 = .ok (d.written fun letters ↦ (r letters).shown letters) ∧
      (parse site e).names = d.names ∧
      ((render site e).runOn p).2 = d.names.foldl (asked e) p ∧
      ((render site e).runOn p).2.stats.references = p.stats.references + d.names.length := by
  rw [runOn_render_prose hdoc h]
  refine ⟨rfl, ?_, rfl, references_foldl_asked⟩
  rw [parse_prose hdoc h]

/-! ### A class of embedders -/

/-- A package outside the site, with a class that has its page in the documentation of embedders. -/
def engineDoc : Value := .record [("packages", .list [.record
  [("name", .text "engine"), ("is_local", .bool false),
    ("libraries", .list [.record [("name", .text "engine"), ("containers", .list [.record
      [("name", .text "Io"), ("kind", .text "class"),
        ("documentation", .text "[Io] writes\n\nsee [Nothing]"),
        ("href", .text "/javadoc/Io")]])]])]])]

/-- The class with an address of its own. -/
def ioClass : Container :=
  { name := "Io", kind := "class", documentation := "[Io] writes\n\nsee [Nothing]",
    href := .text "/javadoc/Io" }

def engineLibrary : Library :=
  { name := "engine", kind := "library", dirName := "engine", containers := [ioClass] }

def enginePackage : Package :=
  { name := "engine", kind := "package", isLocal := false, libraries := [engineLibrary] }

/-- What is read from the document, as a site. -/
def engineSite : Site :=
  let model : Model := ⟨[enginePackage], [], "engine"⟩
  ⟨model, (Location.build ⟨[], [], [], []⟩ model.entities).1, .of [] [], [], 80, none⟩

def ioEntity : Entity :=
  ⟨.container 0 0 0, .container ioClass, [.library engineLibrary, .package enginePackage]⟩

theorem isIn_ioEntity : ioEntity.IsIn engineSite.model :=
  .container List.mem_cons_self List.mem_cons_self List.mem_cons_self

/-- The documentation of that class. -/
def ioProse : Prose where
  first := ⟨⟨.reference io, [.plain writes]⟩, []⟩
  rest := [⟨⟨.plain see, [.reference nothing]⟩, []⟩]
where
  io : Word := ⟨"Io", by decide, List.all_eq_true.mp rfl⟩
  writes : Word := ⟨"writes", by decide, List.all_eq_true.mp rfl⟩
  see : Word := ⟨"see", by decide, List.all_eq_true.mp rfl⟩
  nothing : Word := ⟨"Nothing", by decide, List.all_eq_true.mp rfl⟩

/-- What its references lead to. -/
def ioAnswers (letters : Text) : Resolution :=
  if letters = "Io" then .link "/javadoc/Io" else .code

theorem answers_ioEntity :
    Answers engineSite.location ioEntity ioProse.names ioAnswers := by
  have hnames : ioProse.names = ["Io", "Nothing"] := rfl
  rw [hnames]
  refine ⟨fun letters hl ↦ ?_, fun letters hl href hr ↦ ?_⟩
  · rcases List.mem_cons.mp hl with rfl | hl
    · rfl
    · rw [List.mem_singleton.mp hl]
      rfl
  · rcases List.mem_cons.mp hl with rfl | hl
    · cases hr
      exact List.all_eq_true.mp rfl
    · rw [List.mem_singleton.mp hl] at hr
      cases hr

theorem render_prose_embedder :
    (Model.ofValue engineDoc).1 = .ok engineSite.model ∧ ioEntity.IsIn engineSite.model ∧
      ioEntity.info.documentation = ioProse.source ∧
      Answers engineSite.location ioEntity ioProse.names ioAnswers ∧
      ((render engineSite ioEntity).runOn {}).1 =
        .ok "[Io](https://api.flutter.dev/javadoc/Io) writes\n\nsee \x60Nothing\x60" ∧
      ((render engineSite ioEntity).runOn {}).2.stats.references = 2 := by
  have hdoc : ioEntity.info.documentation = ioProse.source := by decide
  obtain ⟨htext, -, -, hcount⟩ :=
    render_prose engineSite ioEntity ioProse ioAnswers hdoc answers_ioEntity {}
  have hshown : (ioProse.written fun letters ↦ (ioAnswers letters).shown letters) =
      "[Io](https://api.flutter.dev/javadoc/Io) writes\n\nsee \x60Nothing\x60" := by decide
  exact ⟨rfl, isIn_ioEntity, hdoc, answers_ioEntity, htext.trans (congrArg Except.ok hshown),
    hcount⟩

/-- A link into the documentation of embedders does not stay as the resolver gives it, in the
documentation of an entity that a document describes. -/
theorem not_render_prose_written :
    ¬∀ (v : Value) (rules : Settings.LibraryRules) (site : Site) (e : Entity) (d : Prose)
      (r : Text → Resolution) (p : Progress), (Model.ofValue v).1 = .ok site.model →
      site.location = (Location.build rules site.model.entities).1 → e.IsIn site.model →
      e.info.documentation = d.source → Answers site.location e d.names r →
        ((render site e).runOn p).1 =
          .ok (d.written fun letters ↦ (r letters).written letters) := by
  intro h
  have hdoc : ioEntity.info.documentation = ioProse.source := by decide
  have hwritten := h engineDoc ⟨[], [], [], []⟩ engineSite ioEntity ioProse ioAnswers {} rfl rfl
    isIn_ioEntity hdoc answers_ioEntity
  rw [runOn_render_prose hdoc answers_ioEntity] at hwritten
  have hdiffer : (ioProse.written fun letters ↦ (ioAnswers letters).shown letters) ≠
      ioProse.written fun letters ↦ (ioAnswers letters).written letters := by decide
  exact hdiffer (Except.ok.inj hwritten)

end ApiSite.Doc
