import ApiSite.Proofs.Doc.Rendering
import ApiSite.Proofs.Markup.AngleBrackets
import ApiSite.Proofs.Markup.Inline.Calm
import ApiSite.Text.Entity

/-!
# Passages of a documentation text

A passage is a paragraph of prose, or a directive that stands alone between blank lines. A directive
names prepared markup by a digest. Before a documentation text is read as markup, a mark has taken
the place of each directive whose digest is spelled in small letters; a directive with a capital in
it is still there (`Passage.marked`).
-/

set_option autoImplicit false

namespace ApiSite.Doc

open Markup Markup.Inline

/-- A digest in hexadecimal digits, its letters of either case. -/
structure Digest where
  digits : Text
  digits_ne_nil : digits ≠ []
  isHexDigit : ∀ c ∈ digits, Text.isHexDigit c = true

/-- The tag before the digest of a directive. -/
def openTag : Text := "<dartdoc-html>"

/-- The tag behind the digest of a directive. -/
def closeTag : Text := "</dartdoc-html>"

namespace Digest

/-- Whether the letters of a digest are all small. -/
def isSmall (d : Digest) : Bool := d.digits.all isDigestChar

/-- The directive with a digest. -/
def directive (d : Digest) : Text := openTag ++ d.digits ++ closeTag

end Digest

/-- A paragraph of prose, or a directive alone. -/
inductive Passage where
  | prose (p : Paragraph)
  | directive (d : Digest)

namespace Passage

/-- A passage as it stands in a documentation text. -/
def source : Passage → Text
  | prose p => Paragraph.written bracketed p
  | directive d => d.directive

/-- A passage as it is read as markup. -/
def marked : Passage → Text
  | prose p => Paragraph.written bracketed p
  | directive d => if d.isSmall then fragmentMark d.digits else d.directive

/-- The names in a passage. -/
def names : Passage → List Text
  | prose p => namesOf (Paragraph.atoms p)
  | directive _ => []

/-- The tags in a passage that are set aside while it is read. -/
def raw : Passage → List Text
  | prose _ => []
  | directive d => if d.isSmall then [] else [openTag, closeTag]

end Passage

variable {d : Digest} {p : Passage} {ps : List Passage} {t u : Text} {c x : Char}
  {setting : Setting}

/-! ### Characters -/

/-- The characters of directives and their marks. -/
def isDirectiveChar (c : Char) : Bool :=
  c.isAlphanum || ['<', '>', '/', '-', '_', '\x7b', '\x7d'].contains c

/-- The characters of passages. -/
def isPassageChar (c : Char) : Bool := isPlain c || isDirectiveChar c

theorem isAlphanum_of_isHexDigit (hc : Text.isHexDigit c = true) : c.isAlphanum = true := by
  have hclasses : c.isAlphanum =
      (decide ('A' ≤ c ∧ c ≤ 'Z') || 'a' ≤ c && c ≤ 'z' || c.isDigit) := rfl
  simp only [Text.isHexDigit, Bool.or_eq_true, Bool.and_eq_true, decide_eq_true_eq] at hc
  simp only [hclasses, Bool.or_eq_true, Bool.and_eq_true, decide_eq_true_eq]
  rcases hc with (hc | hc) | hc
  · exact Or.inr hc
  · exact Or.inl (Or.inr ⟨hc.1, UInt32.le_trans hc.2 (by decide)⟩)
  · exact Or.inl (Or.inl ⟨hc.1, UInt32.le_trans hc.2 (by decide)⟩)

theorem not_mem_digits (hx : x.isAlphanum = false) : x ∉ d.digits :=
  Text.not_mem_of_all (fun c hc ↦ isAlphanum_of_isHexDigit (d.isHexDigit c hc)) hx

theorem not_mem_between {before after : Text} (hbefore : x ∉ before) (hafter : x ∉ after)
    (hdigits : x ∉ d.digits) : x ∉ before ++ d.digits ++ after := by
  simp [hbefore, hafter, hdigits]

theorem isDirectiveChar_between {before after : Text} (hbefore : before.all isDirectiveChar = true)
    (hafter : after.all isDirectiveChar = true) (hx : x ∈ before ++ d.digits ++ after) :
    isDirectiveChar x = true := by
  rcases List.mem_append.mp hx with hx | hx
  · rcases List.mem_append.mp hx with hx | hx
    · exact List.all_eq_true.mp hbefore x hx
    · simp [isDirectiveChar, isAlphanum_of_isHexDigit (d.isHexDigit x hx)]
  · exact List.all_eq_true.mp hafter x hx

theorem isDirectiveChar_directive (hx : x ∈ d.directive) : isDirectiveChar x = true :=
  isDirectiveChar_between (by decide) (by decide) hx

theorem isDirectiveChar_fragmentMark (hx : x ∈ fragmentMark d.digits) :
    isDirectiveChar x = true :=
  isDirectiveChar_between (by decide) (by decide) hx

theorem isPassageChar_marked (hx : x ∈ p.marked) : isPassageChar x = true := by
  cases p with
  | prose p =>
    rw [Passage.marked, ← Paragraph.writtenWith_atoms] at hx
    simp [isPassageChar, (Paragraph.isRunning_atoms p).isPlain hx]
  | directive d =>
    have hdirective : isDirectiveChar x = true := by
      rw [Passage.marked] at hx
      split at hx
      · exact isDirectiveChar_fragmentMark hx
      · exact isDirectiveChar_directive hx
    simp [isPassageChar, hdirective]

theorem isBlank_of_isDirectiveChar (hc : isDirectiveChar c = true) : Text.isBlank c = false := by
  rw [isDirectiveChar, Bool.or_eq_true, List.contains_iff_mem, Char.isAlphanum,
    Bool.or_eq_true] at hc
  rcases hc with (hc | hc) | hc
  · exact isBlank_of_isAlpha hc
  · have hrange := Text.toNat_of_isDigit hc
    simp only [Text.isBlank, Bool.or_eq_false_iff, Bool.and_eq_false_iff, decide_eq_false_iff_not,
      beq_eq_false_iff_ne]
    omega
  · have hall : ['<', '>', '/', '-', '_', '\x7b', '\x7d'].all (!Text.isBlank ·) = true := rfl
    simpa using List.all_eq_true.mp hall c hc

/-! ### Blocks -/

/-- A text of directive characters is a paragraph if no other block begins like it. -/
theorem isParagraph_of_isDirectiveChar (ht : ∀ x ∈ c :: t, isDirectiveChar x = true)
    (hhead : c ∉ [' ', '#', '-', '_', '*', '+', '>']) (hdigit : Text.isDecimal c = false) :
    Block.IsParagraph (c :: t) := by
  have hno {x : Char} (hx : isDirectiveChar x = false) : x ∉ c :: t := Text.not_mem_of_all ht hx
  have hblank : ∀ x ∈ c :: t, Text.isBlank x = false := fun x hx ↦
    isBlank_of_isDirectiveChar (ht x hx)
  refine Block.isParagraph_of_noTwoBlanks ⟨c, t, rfl, hblank c List.mem_cons_self⟩ ?_
    (noTwoBlanks_of_all hblank) fun _ ↦ Block.formOf_line hhead hdigit (hno rfl) (hno rfl) (hno rfl)
  exact ⟨_, _, (List.dropLast_append_getLast (List.cons_ne_nil c t)).symm,
    hblank _ (List.getLast_mem _)⟩

theorem isParagraph_marked (p : Passage) : Block.IsParagraph p.marked := by
  cases p with
  | prose p =>
    rw [Passage.marked, ← Paragraph.writtenWith_atoms]
    exact Block.isParagraph_sourceOf (Paragraph.isRunning_atoms p)
  | directive d =>
    rw [Passage.marked]
    split
    · exact isParagraph_of_isDirectiveChar (c := 'D') (fun _ ↦ isDirectiveChar_fragmentMark)
        (by decide) rfl
    · exact isParagraph_of_isDirectiveChar (c := '<') (fun _ ↦ isDirectiveChar_directive)
        (by decide) rfl

/-! ### The source -/

/-- Passages with a blank line between two of them, each written by `f`. -/
def joined (f : Passage → Text) (ps : List Passage) : Text := Text.join ['\n', '\n'] (ps.map f)

theorem joined_append_blankLine {f : Passage → Text} (hne : ps ≠ []) :
    joined f ps ++ ['\n', '\n'] = (ps.map f).flatMap (· ++ ['\n', '\n']) :=
  Text.join_append_sep (mt List.map_eq_nil_iff.mp hne)

theorem isPassageChar_joined (hx : x ∈ joined Passage.marked ps) : isPassageChar x = true := by
  rcases Text.mem_of_mem_join hx with hx | ⟨t, ht, hx⟩
  · obtain rfl : x = '\n' := by simpa using hx
    rfl
  · obtain ⟨p, -, rfl⟩ := List.mem_map.mp ht
    exact isPassageChar_marked hx

theorem noTwoBlanks_marked (p : Passage) : NoTwoBlanks p.marked := by
  cases p with
  | prose p =>
    rw [Passage.marked, ← Paragraph.writtenWith_atoms]
    exact (Paragraph.isRunning_atoms p).noTwoBlanks
  | directive d =>
    refine noTwoBlanks_of_all fun x hx ↦ isBlank_of_isDirectiveChar ?_
    rw [Passage.marked] at hx
    split at hx
    · exact isDirectiveChar_fragmentMark hx
    · exact isDirectiveChar_directive hx

theorem isUnfenced_joined (hne : ps ≠ []) : IsUnfenced (joined Passage.marked ps) := by
  have hno {x : Char} (hx : isPassageChar x = false) : x ∉ joined Passage.marked ps :=
    Text.not_mem_of_all (fun _ ↦ isPassageChar_joined) hx
  have hindent := @isChain_flatMap_blankLine (ps.map Passage.marked)
    (List.forall_mem_map.mpr fun p _ ↦ noTwoBlanks_marked p)
    (List.forall_mem_map.mpr fun p _ ↦ (isParagraph_marked p).head)
  rw [← joined_append_blankLine hne] at hindent
  refine ⟨isUniform_of_isChain (hno rfl) (hno rfl) (hno rfl) (hno rfl) hindent.left_of_append, ?_,
    fun line hline ↦ opener?_eq_none (Block.not_mem_lines (hno rfl) hline)
      (Block.not_mem_lines (hno rfl) hline)⟩
  obtain ⟨p, ps, rfl⟩ := List.exists_cons_of_ne_nil hne
  obtain ⟨c, t, hhead, hblank⟩ := (isParagraph_marked p).head
  rw [joined, List.map_cons, Text.join_cons, hhead, Text.isBlankText, List.cons_append,
    List.all_cons, hblank, Bool.false_and]

/-! ### Tags -/

theorem isLeft_openTag : RawHtml.IsLeft openTag where
  notEmpty := by decide
  readBracket r rest hr := by
    have hblock : RawHtml.Reader.isBlockTag "dartdoc-html" = false := by decide
    have hleave : r.startTag "dartdoc-html" openTag rest = r.leave openTag := by
      rw [RawHtml.Reader.startTag, if_neg (by decide), hblock, Bool.false_and,
        if_neg Bool.false_ne_true]
      exact if_neg (by simp [hr.inRaw])
    have hread : RawHtml.readBracket r (openTag ++ rest) =
        (r.startTag "dartdoc-html" openTag rest, openTag.length) := rfl
    rw [hread, hleave]

theorem isLeft_closeTag : RawHtml.IsLeft closeTag where
  notEmpty := by decide
  readBracket r rest hr := by
    have hread : RawHtml.readBracket r (closeTag ++ rest) =
        (r.endTag "dartdoc-html" closeTag rest, closeTag.length) := rfl
    have hleave : r.endTag "dartdoc-html" closeTag rest =
        { r with plainUntil := none }.leave closeTag := if_neg (by simp [hr.inRaw])
    have hnone : { r with plainUntil := none } = r := by rw [← hr.plainUntil]
    rw [hread, hleave, hnone]

theorem hasOnlyLeft_directive (ht : RawHtml.HasOnlyLeft t) :
    RawHtml.HasOnlyLeft (d.directive ++ t) := by
  have hclose := ht.tag (u := "/dartdoc-html>") isLeft_closeTag (by decide)
  have hdigits := hclose.append (u := d.digits) (not_mem_digits rfl)
  have hopen := hdigits.tag (u := "dartdoc-html>") isLeft_openTag (by decide)
  rw [Digest.directive, List.append_assoc, List.append_assoc]
  exact hopen

theorem extract_joined (hne : ps ≠ []) :
    RawHtml.extract (joined Passage.marked ps ++ ['\n', '\n']) =
      (joined Passage.marked ps ++ ['\n', '\n'], []) := by
  refine RawHtml.extract_of_isLeft ?_ ?_
  · have hamp : '&' ∉ joined Passage.marked ps :=
      Text.not_mem_of_all (fun _ ↦ isPassageChar_joined) rfl
    simpa using hamp
  · rw [joined_append_blankLine hne]
    clear hne
    induction ps with
    | nil => exact RawHtml.hasOnlyLeft_of_not_mem List.not_mem_nil
    | cons p ps ih =>
      have hline := ih.append (u := ['\n', '\n']) (by decide)
      rw [List.map_cons, List.flatMap_cons, List.append_assoc]
      cases p with
      | prose p =>
        refine hline.append ?_
        rw [Passage.marked, ← Paragraph.writtenWith_atoms]
        exact (Paragraph.isRunning_atoms p).not_mem rfl
      | directive d =>
        rw [Passage.marked]
        split
        · exact hline.append (not_mem_between (by decide) (by decide) (not_mem_digits rfl))
        · exact hasOnlyLeft_directive hline

/-! ### Inline markup -/

/-- A directive with its tags set aside, the first of them under the given number. -/
def Digest.aside (d : Digest) (n : Nat) : Text :=
  Mark.rawHtml n ++ d.digits ++ Mark.rawHtml (n + 1)

/-- Every rule before the one for tags needs a character that directives do not have. -/
theorem spares_of_isDirectiveChar (hdefinitions : setting.definitions = [])
    (ht : ∀ x ∈ t, isDirectiveChar x = true) :
    ∀ rule ∈ Rule.all.take 13, Spares setting rule (Pieces.ofText t) := by
  have hno (x : Char) (hx : isDirectiveChar x = false) : Lacks x (Pieces.ofText t) :=
    lacks_ofText (Text.not_mem_of_all ht hx)
  simp [Rule.all, Rule.spares_codeSpan (hno '\x60' rfl) (hno '\\' rfl),
    Rule.spares_backslash (hno '\\' rfl), Rule.spares_bracketCode (hno ':' rfl),
    Rule.spares_linkByLabel hdefinitions, Rule.spares_linkToTarget (hno '(' rfl),
    Rule.spares_imageAtTarget (hno '!' rfl), Rule.spares_imageByLabel (hno '!' rfl),
    Rule.spares_nameReference (hno '[' rfl), Rule.spares_imageByText (hno '!' rfl),
    Rule.spares_bracketedAddress_of_colon (hno ':' rfl),
    Rule.spares_bareAddress (hno ':' rfl) (hno '.' rfl),
    Rule.spares_mailAddress_of_at (hno '@' rfl),
    Rule.spares_lineBreak (noTwoSpaces_of_lacks (hno ' ' rfl))]

/-- The mark of a directive is read as text. -/
theorem readText_fragmentMark (hdefinitions : setting.definitions = []) {trace : Trace} :
    readText setting (Pieces.ofText (fragmentMark d.digits)) trace =
      (Pieces.ofText (fragmentMark d.digits), trace) := by
  have hno (x : Char) (hx : isDirectiveChar x = false) :
      Lacks x (Pieces.ofText (fragmentMark d.digits)) :=
    lacks_ofText (Text.not_mem_of_all (fun _ ↦ isDirectiveChar_fragmentMark) hx)
  have hangle : Lacks '<' (Pieces.ofText (fragmentMark d.digits)) :=
    lacks_ofText (not_mem_between (by decide) (by decide) (not_mem_digits rfl))
  have hearly := spares_of_isDirectiveChar hdefinitions fun x ↦
    isDirectiveChar_fragmentMark (d := d) (x := x)
  have hlate : ∀ rule ∈ Rule.all.drop 13,
      Spares setting rule (Pieces.ofText (fragmentMark d.digits)) := by
    simp [Rule.all, Rule.spares_inlineTag hangle, Rule.spares_characterReference (hno '&' rfl),
      Rule.spares_deletion (hno '~' rfl)]
  have hall : Rule.all = Rule.all.take 13 ++ (Rule.all.drop 13 ++ []) := rfl
  -- the one underscore in it stands within a word
  have hbefore (x : Char) (hx : x ∉ ("DARTDOC" : Text)) :
      Lacks x (Pieces.ofText "DARTDO" ++ [.char 'C']) := lacks_ofText (t := "DARTDOC") hx
  have hafter (x : Char) (hx : x ∉ ("INJECT\x7b" : Text) ∧ x ∉ ("\x7d" : Text))
      (halnum : x.isAlphanum = false) :
      Lacks x (.char 'I' :: Pieces.ofText ("NJECT\x7b" ++ d.digits ++ "\x7d")) :=
    lacks_ofText (t := "INJECT\x7b" ++ d.digits ++ "\x7d")
      (not_mem_between hx.1 hx.2 (not_mem_digits halnum))
  have hemphasis := @readEmphasis_underscore _ _ trace.next _ _
    ⟨hbefore '*' (by decide), hbefore '_' (by decide)⟩
    ⟨hafter '*' (by decide) rfl, hafter '_' (by decide) rfl⟩ rfl rfl
  have hsplit : Pieces.ofText "DARTDO" ++ .char 'C' :: .char '_' :: .char 'I' ::
      Pieces.ofText ("NJECT\x7b" ++ d.digits ++ "\x7d") =
        Pieces.ofText (fragmentMark d.digits) := rfl
  rw [hsplit] at hemphasis
  rw [readText, readPieces, hall, applyRules_of_spares hearly, applyRules_of_spares hlate,
    applyRules, hemphasis]

theorem isRead_fragmentMark (hdefinitions : setting.definitions = []) :
    IsRead setting (fragmentMark d.digits) ⟨runOf (fragmentMark d.digits), [], [], 0⟩ where
  notEmpty := List.cons_ne_nil _ _
  read trace := by
    simp only [readRunText, Bool.false_eq_true, if_false, readText_fragmentMark hdefinitions,
      assemble_ofText]
    simp only [List.append_nil]
    rfl
  flat e he := nomatch he

/-- A directive with its tags set aside as pieces. -/
def Digest.asidePieces (d : Digest) (trace : Trace) : Pieces :=
  .literal trace.next (Mark.rawHtml trace.rawHtml.length) :: (Pieces.ofText d.digits ++
    [.literal (trace.next + 1) (Mark.rawHtml (trace.rawHtml.length + 1))])

theorem rawMarkup?_openTag (s : Pieces) :
    Rule.rawMarkup? (Pieces.ofText openTag ++ s) = some openTag.length :=
  rawMarkup?_tag [] "dartdoc-html" (Or.inl rfl) ⟨'d', "artdoc-html", rfl, rfl⟩ rfl

theorem rawMarkup?_closeTag (s : Pieces) :
    Rule.rawMarkup? (Pieces.ofText closeTag ++ s) = some closeTag.length :=
  rawMarkup?_tag ['/'] "dartdoc-html" (Or.inr rfl) ⟨'d', "artdoc-html", rfl, rfl⟩ rfl

theorem pass_directive {inside : Draft → Trace → Draft × Trace} {previous : Option Piece}
    {trace : Trace} :
    pass setting Rule.inlineTag inside previous .nothing (Pieces.ofText d.directive) trace =
      (d.asidePieces trace,
        ⟨trace.rawHtml ++ [openTag, closeTag], trace.names, trace.next + 2⟩) := by
  have hlast (previous : Option Piece) (trace : Trace) :
      pass setting Rule.inlineTag inside previous .nothing (Pieces.ofText closeTag ++ []) trace =
        ([.literal trace.next (Mark.rawHtml trace.rawHtml.length)],
          ⟨trace.rawHtml ++ [closeTag], trace.names, trace.next + 1⟩) :=
    pass_inlineTag_tag (by decide) (rawMarkup?_closeTag _) fun _ ↦ rfl
  have hdigits (previous : Option Piece) (trace : Trace) :
      pass setting Rule.inlineTag inside previous .nothing
        (Pieces.ofText d.digits ++ (Pieces.ofText closeTag ++ [])) trace =
          (Pieces.ofText d.digits ++ [.literal trace.next (Mark.rawHtml trace.rawHtml.length)],
            ⟨trace.rawHtml ++ [closeTag], trace.names, trace.next + 1⟩) :=
    pass_inlineTag_ofText (not_mem_digits rfl) fun previous ↦ hlast previous trace
  have hsplit : Pieces.ofText d.directive =
      Pieces.ofText openTag ++ (Pieces.ofText d.digits ++ (Pieces.ofText closeTag ++ [])) := by
    simp [Digest.directive, Pieces.ofText]
  rw [hsplit, pass_inlineTag_tag (by decide) (rawMarkup?_openTag _) fun previous ↦
    hdigits previous ⟨trace.rawHtml ++ [openTag], trace.names, trace.next + 1⟩]
  simp [Digest.asidePieces]

/-- A directive that is still there is read with its tags set aside. -/
theorem readText_directive (hdefinitions : setting.definitions = []) {trace : Trace} :
    readText setting (Pieces.ofText d.directive) trace =
      (d.asidePieces trace,
        ⟨trace.rawHtml ++ [openTag, closeTag], trace.names, trace.next + 2⟩) := by
  have hearly := spares_of_isDirectiveChar hdefinitions fun x ↦
    isDirectiveChar_directive (d := d) (x := x)
  have hno (x : Char) (hx : x.isAlphanum = false) : Lacks x (d.asidePieces trace) := by
    intro p hp
    rcases List.mem_cons.mp hp with rfl | hp
    · rfl
    · rcases List.mem_append.mp hp with hp | hp
      · exact lacks_ofText (not_mem_digits hx) p hp
      · rw [List.mem_singleton.mp hp]
        rfl
  have hlate : ∀ rule ∈ [Rule.characterReference, Rule.deletion],
      Spares setting rule (d.asidePieces trace) := by
    simp [Rule.spares_characterReference (hno '&' rfl), Rule.spares_deletion (hno '~' rfl)]
  have hall : Rule.all = Rule.all.take 13 ++
      (Rule.inlineTag :: ([Rule.characterReference, Rule.deletion] ++ [])) := rfl
  rw [readText, readPieces, hall, applyRules_of_spares hearly, applyRules]
  simp only [pass_directive]
  rw [applyRules_of_spares hlate, applyRules, readEmphasis_eq_self (hno '*' rfl) (hno '_' rfl)]

theorem isReadFrom_directive (hdefinitions : setting.definitions = []) :
    IsReadFrom setting d.directive [openTag, closeTag] fun n ↦ ⟨runOf (d.aside n), [], [], 2⟩ where
  notEmpty := List.cons_ne_nil _ _
  read trace := by
    have hassemble : assemble false [] (d.asidePieces trace) {} =
        { text := runOf (d.aside trace.rawHtml.length) } := by
      let first := Mark.rawHtml trace.rawHtml.length
      let last := Piece.literal (trace.next + 1) (Mark.rawHtml (trace.rawHtml.length + 1))
      have hfirst := @assemble_literal (Pieces.ofText d.digits ++ [last]) [] trace.next [] first
      have hdigits := @assemble_ofText_append [last] d.digits false [] { text := runOf first }
      rw [List.append_nil] at hdigits
      exact hfirst.trans (hdigits.trans assemble_literal)
    simp only [readRunText, Bool.false_eq_true, if_false, readText_directive hdefinitions,
      hassemble]
    simp
  flat _ e he := nomatch he

/-! ### The document -/

/-- The text of a directive's paragraph, with its tags under the given number if they are set
aside. -/
def Digest.text (d : Digest) (n : Nat) : Text :=
  if d.isSmall then fragmentMark d.digits else d.aside n

/-- What the reading of a passage comes to. -/
def Passage.outcome (r : Text → Element) : Passage → Nat → Outcome
  | prose p, _ =>
    let as := Paragraph.atoms p
    ⟨runOf (lead as), answerDrafts r as, namesOf as, (namesOf as).length⟩
  | directive d, n => ⟨runOf (d.text n), [], [], if d.isSmall then 0 else 2⟩

/-- The element of a passage. -/
def Passage.element (r : Text → Element) : Passage → Nat → Element
  | prose p, _ => paragraphOf r (Paragraph.atoms p)
  | directive d, n => .ofText "p" (d.text n)

variable {r : Text → Element} {resolve : Text → Option Element}

theorem isReadFrom_marked (hsetting : setting = ⟨[], some resolve⟩)
    (hr : ∀ letters ∈ p.names, resolve letters = some (r letters))
    (hleaf : ∀ letters ∈ p.names, IsLeaf (r letters)) :
    IsReadFrom setting p.marked p.raw fun n ↦ p.outcome r n := by
  cases p with
  | prose p =>
    rw [Passage.marked, ← Paragraph.writtenWith_atoms]
    exact (isRead_sourceOf hsetting (Paragraph.isRunning_atoms p) hr hleaf).isReadFrom
  | directive d =>
    have hdefinitions : setting.definitions = [] := by rw [hsetting]
    have hmark := (isRead_fragmentMark (d := d) hdefinitions).isReadFrom
    have hdirective := isReadFrom_directive (d := d) hdefinitions
    cases hsmall : d.isSmall with
    | true => simpa [Passage.marked, Passage.raw, Passage.outcome, Digest.text, hsmall] using hmark
    | false =>
      simpa [Passage.marked, Passage.raw, Passage.outcome, Digest.text, hsmall] using hdirective

theorem newline_not_mem_text (d : Digest) (n : Nat) : '\n' ∉ d.text n := by
  have hmark (n : Nat) : '\n' ∉ Mark.rawHtml n := by
    have hnumber : '\n' ∉ Text.ofNat n :=
      Text.not_mem_of_all (fun _ ↦ Text.isDigit_of_mem_ofNat) rfl
    simp [Mark.rawHtml, hnumber, Mark.opening, Mark.closing]
  rw [Digest.text]
  split
  · exact not_mem_between (by decide) (by decide) (not_mem_digits rfl)
  · exact not_mem_between (hmark _) (hmark _) (not_mem_digits rfl)

theorem text_ne_nil (d : Digest) (n : Nat) : d.text n ≠ [] := by
  rw [Digest.text]
  split
  · exact List.cons_ne_nil _ _
  · exact List.cons_ne_nil _ _

theorem element_eq_finished {n : Nat} (hleaf : ∀ letters ∈ p.names, IsLeaf (r letters)) :
    .mk "p" [] (runText (p.outcome r n).text) (finishedAll (p.outcome r n).found) none =
      p.element r n := by
  cases p with
  | prose p =>
    simp only [Passage.outcome, runText_runOf, finishedAll_answerDrafts hleaf]
    rfl
  | directive d =>
    simp only [Passage.outcome, runText_runOf, given_eq_some (text_ne_nil d n)]
    rfl

theorem names_outcome {n : Nat} : (p.outcome r n).names = p.names := by
  cases p <;> rfl

/-- Neither attribute lists nor headings are in a passage. -/
theorem assigned_element {n : Nat} (hanswer : ∀ letters ∈ p.names, IsAnswer letters (r letters)) :
    Attributes.assigned none (p.element r n) = p.element r n := by
  cases p with
  | prose p =>
    have hbrace : '\x7b' ∉ (paragraphOf r (Paragraph.atoms p)).innerText := by
      rw [paragraphOf, Element.innerText, getD_given, lead_append_innerTexts hanswer]
      intro hmem
      exact absurd (isPlain_of_mem_writtenWith (Paragraph.isRunning_atoms p).toIsSpelled hmem)
        Bool.false_ne_true
    exact Attributes.assigned_eq_setTail _ none hbrace List.not_mem_nil
  | directive d => exact Attributes.assigned_line (newline_not_mem_text d n)

theorem isHeadless_element {n : Nat}
    (hanswer : ∀ letters ∈ p.names, IsAnswer letters (r letters)) :
    HeadingIds.isHeadless (p.element r n) = true := by
  have hheading : headingTags.contains ("p" : Text) = false := by decide
  cases p with
  | prose p =>
    rw [Passage.element, paragraphOf, HeadingIds.isHeadless, hheading, areHeadless_answers hanswer]
    rfl
  | directive d =>
    rw [Passage.element, Element.ofText, HeadingIds.isHeadless, hheading]
    rfl

/-- **Passages are read as paragraphs.** A reference is answered; a directive is the text of its
mark or, where it is still there, of the marks of its tags, which are set aside. -/
theorem parse_joined (hne : ps ≠ [])
    (hr : ∀ letters ∈ ps.flatMap Passage.names, resolve letters = some (r letters))
    (hanswer : ∀ letters ∈ ps.flatMap Passage.names, IsAnswer letters (r letters)) :
    Document.parse (some resolve) (joined Passage.marked ps) =
      ⟨.mk "div" [] none ((numbered Passage.raw 0 ps).map fun q ↦ q.2.element r q.1) none,
        ps.flatMap Passage.raw, ps.flatMap Passage.names, true⟩ := by
  have hmem {p : Passage} (hp : p ∈ ps) {l : Text} (hl : l ∈ p.names) :
      l ∈ ps.flatMap Passage.names := List.mem_flatMap.mpr ⟨p, hp, hl⟩
  have hblocks : Block.parse [] (joined Passage.marked ps ++ ['\n', '\n']) =
      (.mk "div" [] none (ps.map fun p ↦ .ofText "p" p.marked) none, []) := by
    rw [joined_append_blankLine hne, Block.parse_of_isParagraph, List.map_map]
    · rfl
    · exact List.forall_mem_map.mpr fun p _ ↦ isParagraph_marked p
  have hinline := @read_of_isReadFrom ⟨[], some resolve⟩ ⟨[], [], 0⟩ _ ps Passage.marked
    Passage.raw (fun p n ↦ p.outcome r n) fun p hp ↦ isReadFrom_marked rfl
      (fun l hl ↦ hr l (hmem hp hl)) fun l hl ↦ (hanswer l (hmem hp hl)).isLeaf
  have helements : (numbered Passage.raw 0 ps).map (fun q ↦ .mk "p" []
      (runText (q.2.outcome r q.1).text) (finishedAll (q.2.outcome r q.1).found) none) =
        (numbered Passage.raw 0 ps).map fun q ↦ q.2.element r q.1 :=
    List.map_congr_left fun q hq ↦
      element_eq_finished fun l hl ↦ (hanswer l (hmem (mem_of_mem_numbered hq) hl)).isLeaf
  have hnames : (numbered Passage.raw 0 ps).flatMap (fun q ↦ (q.2.outcome r q.1).names) =
      ps.flatMap Passage.names := by
    simp only [names_outcome]
    rw [← List.flatMap_map (f := Prod.snd), map_snd_numbered]
  simp only [List.length_nil, List.nil_append, helements, hnames] at hinline
  refine parse_of_stages (isUnfenced_joined hne) (extract_joined hne) hblocks hinline ?_ ?_
  · refine Attributes.read_eq_self_of_forall (List.forall_mem_map.mpr fun q hq ↦ ?_)
      (List.forall_mem_map.mpr fun q hq ↦ ?_)
    · exact assigned_element fun l hl ↦ hanswer l (hmem (mem_of_mem_numbered hq) hl)
    · cases q.2 <;> rfl
  · have hheading : headingTags.contains ("div" : Text) = false := by decide
    have hchildren : HeadingIds.areHeadless
        ((numbered Passage.raw 0 ps).map fun q ↦ q.2.element r q.1) = true :=
      HeadingIds.areHeadless_iff.mpr (List.forall_mem_map.mpr fun q hq ↦
        isHeadless_element fun l hl ↦ hanswer l (hmem (mem_of_mem_numbered hq) hl))
    rw [HeadingIds.isHeadless, hheading, hchildren]
    rfl

/-! ### What is written -/

/-- A directive that is still there as it is written: its tags stay where tags of their name are
safe, and are escaped elsewhere. -/
def Digest.left (safeTags : List Text) (d : Digest) : Text :=
  if (safeTags.map Text.lower).contains "dartdoc-html" then d.directive
  else "&lt;dartdoc-html&gt;" ++ d.digits ++ "&lt;/dartdoc-html&gt;"

/-- A passage as it is written, its names by `f`. -/
def Passage.written (safeTags : List Text) (f : Text → Text) : Passage → Text
  | prose p => Paragraph.written f p
  | directive d => if d.isSmall then fragmentMark d.digits else d.left safeTags

theorem escape_directive (safeTags : List Text) :
    AngleBrackets.escape safeTags d.directive = d.left safeTags := by
  let name : Text := "dartdoc-html"
  let safe := safeTags.map Text.lower
  let tag (slash : Bool) : AngleBrackets.Tag := ⟨slash, name, []⟩
  have htag (slash : Bool) (t : Text) :
      AngleBrackets.tag? ('<' :: ((tag slash).inside ++ '>' :: t)) = some (tag slash) := by
    cases slash <;> rfl
  have harguments (slash : Bool) (previous : Option Char) (t : Text) :
      AngleBrackets.opensArguments previous ((tag slash).inside ++ '>' :: t) = false := by
    cases slash <;> rfl
  have hlower : Text.lower name = name := by decide
  have hinert : ∀ c ∈ d.digits, AngleBrackets.isInert c = true := by
    intro c hc
    rw [AngleBrackets.isInert, Bool.and_eq_true, bne_iff_ne, bne_iff_ne]
    exact ⟨ne_of_mem_of_not_mem hc (not_mem_digits rfl),
      ne_of_mem_of_not_mem hc (not_mem_digits rfl)⟩
  have hopen : AngleBrackets.escapeFrom safe .plain none (openTag ++ (d.digits ++ closeTag)) =
      (if safe.contains name then openTag else "&lt;dartdoc-html&gt;") ++
        AngleBrackets.escapeFrom safe .plain (some '>') (d.digits ++ closeTag) := by
    have hescape := @AngleBrackets.escapeFrom_tag safe none (d.digits ++ closeTag) (tag false)
      (harguments false none _) (htag false _)
    rw [hlower] at hescape
    exact hescape
  have hclose (previous : Option Char) :
      AngleBrackets.escapeFrom safe .plain previous closeTag =
        if safe.contains name then closeTag else "&lt;/dartdoc-html&gt;" := by
    have hescape := @AngleBrackets.escapeFrom_tag safe previous [] (tag true)
      (harguments true previous _) (htag true _)
    rw [hlower] at hescape
    exact hescape.trans (List.append_nil _)
  rw [AngleBrackets.escape, Digest.directive, List.append_assoc, hopen,
    AngleBrackets.escapeFrom_inert hinert, hclose, Digest.left]
  cases safe.contains name with
  | true => rw [if_pos rfl, if_pos rfl, if_pos rfl, Digest.directive, List.append_assoc]
  | false =>
    rw [if_neg Bool.false_ne_true, if_neg Bool.false_ne_true, if_neg Bool.false_ne_true,
      List.append_assoc]

theorem plainText_aside {style : Writer.Style} {rawHtml : List Text} {n : Nat}
    (hopen : Writer.rawText rawHtml n = openTag)
    (hclose : Writer.rawText rawHtml (n + 1) = closeTag) :
    Writer.plainText style rawHtml false (d.aside n) = d.left style.safeTags := by
  have haside : d.aside n = Mark.opening :: "wzxhzdk:" ++ Text.ofNat n ++ Mark.closing ::
      (d.digits ++ (Mark.opening :: "wzxhzdk:" ++ Text.ofNat (n + 1) ++ Mark.closing :: [])) := by
    simp [Digest.aside, Mark.rawHtml]
  have hnone : Mark.substitute "wzxhzdk:" (Writer.rawText rawHtml) [] = [] := rfl
  have hraw : Mark.substitute "wzxhzdk:" (Writer.rawText rawHtml) (d.aside n) = d.directive := by
    rw [haside, Mark.substitute_mark_append, Mark.substitute_append (not_mem_digits rfl),
      Mark.substitute_mark_append, hopen, hclose, hnone, List.append_nil, Digest.directive,
      List.append_assoc]
  have hmark : Mark.opening ∉ d.left style.safeTags := by
    rw [Digest.left]
    split
    · exact not_mem_between (by decide) (by decide) (not_mem_digits rfl)
    · exact not_mem_between (by decide) (by decide) (not_mem_digits rfl)
  rw [Writer.plainText, if_neg Bool.false_ne_true, hraw, escape_directive, Mark.restoreBackslashes,
    Mark.substitute_eq_self hmark]

variable {f : Text → Text} {style : Writer.Style}

/-- The tags of a directive are where its number says. -/
theorem rawText_of_mem_numbered {n : Nat} (hsmall : d.isSmall = false)
    (hd : (n, .directive d) ∈ numbered Passage.raw 0 ps) :
    Writer.rawText (ps.flatMap Passage.raw) n = openTag ∧
      Writer.rawText (ps.flatMap Passage.raw) (n + 1) = closeTag := by
  obtain ⟨before, after, rfl, hnumber⟩ := exists_of_mem_numbered hd
  obtain rfl : n = (before.flatMap Passage.raw).length := by simpa using hnumber
  have hraw : Passage.raw (.directive d) = [openTag, closeTag] := if_neg (by rw [hsmall]; decide)
  have hopen : Text.trimEnd (· == '\n') openTag = openTag := by decide
  have hclose : Text.trimEnd (· == '\n') closeTag = closeTag := by decide
  simp only [Writer.rawText, List.flatMap_append, List.flatMap_cons, hraw]
  constructor
  · rw [List.getElem?_append_right (Nat.le_refl _), Nat.sub_self]
    exact hopen
  · rw [List.getElem?_append_right (Nat.le_add_right _ 1), Nat.add_sub_cancel_left]
    exact hclose

theorem exists_last_written {safeTags : List Text} :
    ∃ t c, (Passage.directive d).written safeTags f = t ++ [c] ∧ Text.isBlank c = false := by
  have hlast (before after : Text) (c : Char) :
      before ++ (after ++ [c]) = before ++ after ++ [c] := (List.append_assoc _ _ _).symm
  rw [Passage.written, Digest.left]
  split
  · exact ⟨_, '\x7d', rfl, rfl⟩
  · split
    · exact ⟨_, '>', hlast (openTag ++ d.digits) "</dartdoc-html" '>', rfl⟩
    · exact ⟨_, ';', hlast ("&lt;dartdoc-html&gt;" ++ d.digits) "&lt;/dartdoc-html&gt" ';', rfl⟩

theorem isWritten_element {q : Nat × Passage} (hq : q ∈ numbered Passage.raw 0 ps)
    (hshows : ∀ letters ∈ q.2.names, Writer.Shows letters (r letters) (f letters)) :
    Writer.IsWritten style (ps.flatMap Passage.raw) (q.2.element r q.1).text
      (q.2.element r q.1).children (q.2.written style.safeTags f) := by
  obtain ⟨n, p⟩ := q
  cases p with
  | prose p =>
    rw [Passage.written, ← Paragraph.writtenWith_atoms]
    exact Writer.isWritten_answers (Paragraph.isRunning_atoms p) hshows
  | directive d =>
    refine Writer.isWritten_text (text_ne_nil d n) ?_ ?_
    · rw [Digest.text, Passage.written]
      cases hsmall : d.isSmall with
      | true =>
        exact Writer.plainText_eq_self
          (not_mem_between (by decide) (by decide) (not_mem_digits rfl))
          (not_mem_between (by decide) (by decide) (not_mem_digits rfl))
          (not_mem_between (by decide) (by decide) (not_mem_digits rfl))
      | false =>
        obtain ⟨hopen, hclose⟩ := rawText_of_mem_numbered hsmall hq
        exact plainText_aside hopen hclose
    · exact exists_last_written

/-- **Passages are written as these**, each reference by what it leads to; the mark of a directive
is still there, and a directive that no mark stands for is escaped. -/
theorem write_joined (hne : ps ≠ [])
    (hshows : ∀ letters ∈ ps.flatMap Passage.names, Writer.Shows letters (r letters) (f letters)) :
    Writer.write style
        (.mk "div" [] none ((numbered Passage.raw 0 ps).map fun q ↦ q.2.element r q.1) none)
        (ps.flatMap Passage.raw) = .ok (joined (Passage.written style.safeTags f) ps) := by
  have hparts : (numbered Passage.raw 0 ps).map (fun q ↦ q.2.element r q.1) =
      (numbered Passage.raw 0 ps).map fun q ↦
        .mk "p" [] (q.2.element r q.1).text (q.2.element r q.1).children none :=
    List.map_congr_left fun q _ ↦ by cases q.2 <;> rfl
  have hjoined : (numbered Passage.raw 0 ps).map (fun q ↦ q.2.written style.safeTags f) =
      ps.map (Passage.written style.safeTags f) := by
    have hmap := congrArg (List.map (Passage.written style.safeTags f))
      (@map_snd_numbered _ ps Passage.raw 0)
    rwa [List.map_map] at hmap
  have hnumbered : numbered Passage.raw 0 ps ≠ [] := by
    intro hnil
    have hmap := @map_snd_numbered _ ps Passage.raw 0
    rw [hnil] at hmap
    exact hne hmap.symm
  have hwrite := @Writer.write_of_isWritten style (ps.flatMap Passage.raw) _
    (numbered Passage.raw 0 ps) _ _ (fun q ↦ q.2.written style.safeTags f) hnumbered fun q hq ↦
      isWritten_element hq fun l hl ↦
        hshows l (List.mem_flatMap.mpr ⟨q.2, mem_of_mem_numbered hq, hl⟩)
  rw [hparts, joined, ← hjoined]
  exact hwrite

end ApiSite.Doc
