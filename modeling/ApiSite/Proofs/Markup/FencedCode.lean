import ApiSite.Proofs.Markup.Inline.Calm
import ApiSite.Proofs.Markup.Writer

/-!
# Fenced code keeps its text

A fenced block on its own is read as one element, and writing that element gives the block back
(`write_parse_fenced`). What carries the code past every other rule is that it leaves the source
before they run: the lines that remain hold nothing but its mark (`extract_fenced`), the code stands
in the tree as closed text with its references escaped (`root_fenced`), and the writer undoes
precisely that escape (`unescapeCode_escapeCode`). The empty lines behind the mark are added to the
code on the way, and the writer drops them again.
-/

set_option autoImplicit false

namespace ApiSite.Markup

open Text (lines unlines)

variable {l code t : Text} {resolve? : Option (Text → Option Element)}

/-! ### Languages, codes and blocks -/

/-- Characters of a language tag in ASCII. -/
def isTagChar (c : Char) : Bool := c.isAlphanum || ['_', '#', '+', '-', '.'].contains c

/-- A tag of such characters that does not begin with a dot. -/
structure IsLanguage (l : Text) : Prop where
  ne_nil : l ≠ []
  isTagChar : ∀ c ∈ l, isTagChar c = true
  head : l.head? ≠ some '.'

/-- The line that opens and closes a block. -/
abbrev ticks : Text := "\x60\x60\x60"

/-- A code that a fence can hold: nothing in it that a source loses or rewrites, no empty line at
its end, and no line that closes the fence. -/
structure IsFenceable (code : Text) : Prop where
  opening : Mark.opening ∉ code
  closing : Mark.closing ∉ code
  carriageReturn : '\r' ∉ code
  tab : '\t' ∉ code
  line : ∀ line ∈ lines code, line.all (· == ' ') = true → line = []
  last : (lines code).getLast? ≠ some []
  fence : ∀ m n, Text.spaces m ++ ticks ++ Text.spaces n ∉ lines code

/-- A fenced block as it stands in a source. -/
def fenced (l code : Text) : Text := ticks ++ l ++ '\n' :: code ++ '\n' :: ticks

/-- The element of a code block. -/
def codeBlock (l t : Text) : Element :=
  .mk "pre" [] none [.mk "code" [("class", some ("language-" ++ l))] (some t) [] none] none

/-- The root of the tree that a block on its own is read as. -/
def codeRoot (l t : Text) : Element := .mk "div" [] none [codeBlock l t] none

/-! ### Characters of a language -/

theorem toNat_lt_of_isTagChar {c : Char} (hc : isTagChar c = true) : c.toNat < 128 := by
  simp only [isTagChar, Char.isAlphanum, Bool.or_eq_true, List.contains_eq_mem, List.mem_cons,
    List.not_mem_nil, or_false, decide_eq_true_eq] at hc
  rcases hc with (hc | hc) | rfl | rfl | rfl | rfl | rfl
  · have hrange := toNat_of_isAlpha hc
    omega
  · have hrange : '0'.val ≤ c.val ∧ c.val ≤ '9'.val := by simpa [Char.isDigit] using hc
    have hhigh : c.toNat ≤ 57 := UInt32.le_iff_toNat_le.mp hrange.2
    omega
  all_goals decide

/-- The characters of a tag are few enough to go through. -/
theorem classes_of_isTagChar {c : Char} (hc : isTagChar c = true) :
    Fence.isLanguageChar c = true ∧ Text.isBlank c = false := by
  have hall : ∀ n < 128, isTagChar (Char.ofNat n) = true →
      Fence.isLanguageChar (Char.ofNat n) = true ∧ Text.isBlank (Char.ofNat n) = false := by
    decide
  have hself : Char.ofNat c.toNat = c := Char.ofNat_toNat c
  have hclasses := hall c.toNat (toNat_lt_of_isTagChar hc)
  rw [hself] at hclasses
  exact hclasses hc

theorem IsLanguage.not_mem {x : Char} (hl : IsLanguage l) (hx : Markup.isTagChar x = false) :
    x ∉ l := Text.not_mem_of_all hl.isTagChar hx

/-- A language tag is read off an opening line in full. -/
theorem languageOf_eq_self (hl : IsLanguage l) : Fence.languageOf l = l := by
  obtain ⟨c, rest, rfl⟩ := List.exists_cons_of_ne_nil hl.ne_nil
  have hspace : (c :: rest).dropWhile (· == ' ') = c :: rest := by
    have hc : c ≠ ' ' := fun heq ↦ hl.not_mem (x := ' ') rfl (heq ▸ List.mem_cons_self)
    simp [hc]
  have hbrace : (c :: rest).head? ≠ some '\x7b' := fun heq ↦
    hl.not_mem (x := '\x7b') rfl (List.mem_of_mem_head? heq)
  have hall : (c :: rest).takeWhile Fence.isLanguageChar = c :: rest :=
    List.takeWhile_eq_self_iff.mpr fun d hd ↦ (classes_of_isTagChar (hl.isTagChar d hd)).1
  rw [Fence.languageOf]
  simp only [hspace, if_neg hbrace, if_neg hl.head, hall]

/-! ### The lines of a block -/

theorem lines_fenced (hl : IsLanguage l) :
    lines (fenced l code) = (ticks ++ l) :: (lines code ++ [ticks]) := by
  have hopening : '\n' ∉ ticks ++ l := by
    rw [List.mem_append, not_or]
    exact ⟨by decide, hl.not_mem rfl⟩
  have hrest : lines (code ++ '\n' :: ticks) = lines code ++ [ticks] :=
    Text.splitOn_append_cons '\n' code ticks
  rw [fenced, List.append_assoc, lines, List.cons_append, Text.splitOn_append hopening, ← lines,
    hrest]

theorem isUniform_fenced (hl : IsLanguage l) (hcode : IsFenceable code) :
    IsUniform (fenced l code) := by
  have hmem {x : Char} (hl : x ∉ l) (hcode : x ∉ code) (hx : x ∉ '\n' :: ticks) :
      x ∉ fenced l code := by
    simp only [List.mem_cons, not_or] at hx
    simp [fenced, hl, hcode, hx]
  refine ⟨hmem (hl.not_mem rfl) hcode.opening (by decide),
    hmem (hl.not_mem rfl) hcode.closing (by decide),
    hmem (hl.not_mem rfl) hcode.carriageReturn (by decide),
    hmem (hl.not_mem rfl) hcode.tab (by decide), fun line hline hall ↦ ?_⟩
  rw [lines_fenced hl, List.tail_cons] at hline
  rcases List.mem_append.mp hline with hline | hline
  · exact hcode.line line hline hall
  · rw [List.mem_singleton.mp hline] at hall
    cases hall

/-! ### Taking the block out -/

theorem opener?_ticks (hl : '\x60' ∉ l) : Fence.opener? (ticks ++ l) = some (0, '\x60', 3, l) := by
  have hcount : Text.countStart (· == '\x60') l = 0 := by
    cases l with
    | nil => rfl
    | cons c l =>
      have hc : c ≠ '\x60' := fun heq ↦ hl (heq ▸ List.mem_cons_self)
      simp [Text.countStart, hc]
  have hline : ticks ++ l = '\x60' :: '\x60' :: '\x60' :: l := rfl
  have hindent : Text.countStart (· == ' ') (ticks ++ l) = 0 := rfl
  have hsize : Text.countStart (· == '\x60') ('\x60' :: '\x60' :: l) = 2 := by
    have hcount' : (l.takeWhile (· == '\x60')).length = 0 := hcount
    simp [Text.countStart, hcount']
  rw [Fence.opener?, hindent, hline]
  simp [hsize]

/-- A line that closes a fence of three backticks has these and spaces around them. -/
theorem exists_spaces_of_closes {line : Text} (h : Fence.closes '\x60' 3 line = true) :
    ∃ m n, line = Text.spaces m ++ ticks ++ Text.spaces n := by
  obtain ⟨before, after, hline, hbefore, hafter⟩ :=
    Text.exists_eq_append_trim (· == ' ') line
  obtain ⟨hlength, hall⟩ := (Bool.and_eq_true _ _).mp h
  have htrim : Text.trim (· == ' ') line = List.replicate 3 '\x60' :=
    List.eq_replicate_iff.mpr ⟨by simpa using hlength, by simpa using hall⟩
  have hspaces {t : Text} (ht : ∀ c ∈ t, (c == ' ') = true) : t = Text.spaces t.length :=
    List.eq_replicate_iff.mpr ⟨rfl, by simpa using ht⟩
  refine ⟨before.length, after.length, ?_⟩
  rw [← hspaces hbefore, ← hspaces hafter]
  rwa [htrim] at hline

theorem bodyLines?_fenced {body rest : List Text}
    (hbody : ∀ m n, Text.spaces m ++ ticks ++ Text.spaces n ∉ body) :
    Fence.bodyLines? '\x60' 3 (body ++ ticks :: rest) = some body := by
  induction body with
  | nil => rfl
  | cons line body ih =>
    have hline : Fence.closes '\x60' 3 line = false := by
      rw [Bool.eq_false_iff]
      intro hcloses
      obtain ⟨m, n, heq⟩ := exists_spaces_of_closes hcloses
      exact hbody m n (heq ▸ List.mem_cons_self)
    rw [List.cons_append, Fence.bodyLines?, hline, if_neg Bool.false_ne_true,
      ih fun m n hmem ↦ hbody m n (List.mem_cons_of_mem _ hmem)]
    rfl

/-- The lines of a block that was taken are passed over. -/
theorem extractFrom_append {found : List Fence} {taken rest : List Text} :
    Fence.extractFrom taken.length found (taken ++ rest) = Fence.extractFrom 0 found rest := by
  induction taken with
  | nil => rfl
  | cons line taken ih => exact ih

theorem unlines_unindent (code : Text) :
    unlines ((lines code).map (Fence.unindent 0) ++ [[]]) = code ++ ['\n'] := by
  have hunindent : Fence.unindent 0 = id := by
    funext line
    simp [Fence.unindent]
  have hlines : lines (code ++ ['\n']) = lines code ++ [[]] := Text.splitOn_append_cons '\n' code []
  rw [hunindent, List.map_id, ← hlines, unlines, lines, Text.join_splitOn]

/-- What remains of a source that is one block: its mark, and empty lines around it. -/
theorem extract_fenced (hl : IsLanguage l) (hcode : IsFenceable code) :
    Fence.extract (lines (fenced l code) ++ [[], []]) =
      ([[], Mark.fence 0, [], [], [], []], [⟨l, code ++ ['\n']⟩]) := by
  have hstart : Fence.start? (ticks ++ l) (lines code ++ ticks :: [[], []]) =
      some (0, ⟨l, code ++ ['\n']⟩, (lines code).length + 1) := by
    rw [Fence.start?, opener?_ticks (hl.not_mem rfl)]
    simp [Fence.shorten?, bodyLines?_fenced hcode.fence, languageOf_eq_self hl, unlines_unindent]
  have hend (found : List Fence) :
      Fence.extractFrom ((lines code).length + 1) found (lines code ++ ticks :: [[], []]) =
        ([[], []], found) := by
    have hskip := @extractFrom_append found (lines code ++ [ticks]) [[], []]
    rw [List.length_append, List.append_assoc] at hskip
    exact hskip
  rw [lines_fenced hl, Fence.extract]
  simp only [List.cons_append, List.append_assoc, List.nil_append]
  rw [Fence.extractFrom, hstart]
  simp only [hend]
  rfl

/-! ### The element of a block -/

theorem escapeCode_append (s t : Text) :
    Block.escapeCode (s ++ t) = Block.escapeCode s ++ Block.escapeCode t := List.flatMap_append

/-- Line feeds that a block's code gets on its way into the tree: its own last one, and those for
the empty lines that come behind its mark. -/
abbrev fillers : Text := "\n\n\n\n\n"

theorem parse_mark (hl : IsLanguage l) :
    Block.parse [⟨l, code ++ ['\n']⟩] (unlines [[], Mark.fence 0, [], [], [], []]) =
      (codeRoot l (Block.escapeCode (code ++ fillers)), []) := by
  have hparse (f : Fence) : Block.parse [f] (unlines [[], Mark.fence 0, [], [], [], []]) =
      (.mk "div" [] none
        [Block.extendCode "\n\n" (Block.extendCode "\n\n" (Block.fenceElement f))] none, []) := rfl
  have hlanguage : l.isEmpty = false := List.isEmpty_eq_false_iff.mpr hl.ne_nil
  have hfillers : Block.escapeCode (code ++ ['\n']) ++ "\n\n" ++ "\n\n" =
      Block.escapeCode (code ++ fillers) := by
    rw [escapeCode_append, escapeCode_append, List.append_assoc, List.append_assoc]
    rfl
  rw [hparse, Block.fenceElement, hlanguage, if_neg Bool.false_ne_true, codeRoot, codeBlock,
    ← hfillers]
  rfl

theorem isBlankText_fenced : Text.isBlankText (fenced l code) = false := rfl

/-- A block is read as an element that holds its code, and no name is asked for. -/
theorem parse_fenced (hl : IsLanguage l) (hcode : IsFenceable code) :
    Document.parse resolve? (fenced l code) =
      ⟨codeRoot l (Block.escapeCode (code ++ fillers)), [], [], true⟩ := by
  have hraw : RawHtml.extract (unlines [[], Mark.fence 0, [], [], [], []]) =
      (unlines [[], Mark.fence 0, [], [], [], []], []) :=
    extract_rawHtml_eq_nil (by decide) (by decide)
  have hinline (t : Text) (trace : Inline.Trace) :
      Inline.read ⟨[], resolve?⟩ (codeRoot l t) trace = (codeRoot l t, trace) := by
    refine Inline.read_eq_self fun e he ↦ ?_
    rw [List.mem_singleton.mp he]
    refine .intro (fun hopen ↦ absurd hopen Bool.false_ne_true) fun d hd ↦ ?_
    -- the text of the code element is closed
    rw [List.mem_singleton.mp hd]
    exact .intro (fun hopen ↦ absurd hopen Bool.false_ne_true) fun _ h ↦
      absurd h List.not_mem_nil
  have hattributes (t : Text) : Attributes.read (codeRoot l t) = codeRoot l t := rfl
  have hids (t : Text) : HeadingIds.read [] (codeRoot l t) = codeRoot l t := rfl
  have hgiven (t : Text) : HeadingIds.areGiven (codeRoot l t) = true := rfl
  rw [Document.parse, isBlankText_fenced, if_neg Bool.false_ne_true]
  simp only [(isUniform_fenced hl hcode).uniformLines_eq, extract_fenced hl hcode, hraw,
    parse_mark hl, hinline, hattributes, hids, hgiven]

/-! ### Writing the element -/

/-- The references of code are undone one kind after the other, the ampersands last. -/
theorem unescapeCode_escapeCode (t : Text) :
    Inline.Rule.unescapeCode (Block.escapeCode t) = t := by
  have hlt : Text.replace "&lt;" ['<'] (Block.escapeCode t) = t.flatMap fun c ↦
      if c = '&' then "&amp;" else if c = '>' then "&gt;" else [c] := by
    refine Text.replace_flatMap fun c rest ↦ ?_
    split_ifs with hamp hlt hgt
    · rfl
    · cases hlt.symm.trans hgt
    · rw [hlt]
      rfl
    · rfl
    · exact Text.replace_cons hamp rest
  have hgt : Text.replace "&gt;" ['>'] (t.flatMap fun c ↦
      if c = '&' then "&amp;" else if c = '>' then "&gt;" else [c]) = t.flatMap fun c ↦
      if c = '&' then "&amp;" else [c] := by
    refine Text.replace_flatMap fun c rest ↦ ?_
    split_ifs with hamp hgt
    · rfl
    · rw [hgt]
      rfl
    · exact Text.replace_cons hamp rest
  have hamp : Text.replace "&amp;" ['&'] (t.flatMap fun c ↦ if c = '&' then "&amp;" else [c]) =
      t.flatMap fun c ↦ [c] := by
    refine Text.replace_flatMap fun c rest ↦ ?_
    split_ifs with hamp
    · rw [hamp]
      rfl
    · exact Text.replace_cons hamp rest
  rw [Inline.Rule.unescapeCode, hlt, hgt, hamp, List.flatMap_singleton']

/-- The last line of a code is not empty, so no line feed ends it. -/
theorem IsFenceable.exists_last (hcode : IsFenceable code) :
    ∃ s c, code = s ++ [c] ∧ c ≠ '\n' := by
  obtain rfl | ⟨s, c, rfl⟩ := List.eq_nil_or_concat code
  · exact absurd rfl hcode.last
  · refine ⟨s, c, List.concat_eq_append, fun hc ↦ hcode.last ?_⟩
    have hlines : lines (s ++ ['\n']) = lines s ++ [[]] := Text.splitOn_append_cons '\n' s []
    rw [List.concat_eq_append, hc, hlines, List.getLast?_concat]

theorem trimEnd_fillers (hcode : IsFenceable code) :
    Text.trimEnd (· == '\n') (code ++ fillers) = code := by
  obtain ⟨s, c, rfl, hc⟩ := hcode.exists_last
  rw [Text.trimEnd_append_of_all (List.all_eq_true.mp rfl),
    Text.trimEnd_concat_of_false (by simpa using hc)]

namespace Writer

variable {style : Style} {rawHtml : List Text}

theorem languageOf_tag (hl : IsLanguage l) :
    languageOf style [("class", some ("language-" ++ l))] = l := by
  have hkey : ∀ c ∈ "language-".toList, Text.isBlank c = false := by
    simpa using List.all_eq_true.mp (rfl : ("language-".toList.all (!Text.isBlank ·)) = true)
  have hblank : ∀ c ∈ "language-".toList ++ l, Text.isBlank c = false := by
    intro c hc
    rcases List.mem_append.mp hc with hc | hc
    · exact hkey c hc
    · exact (classes_of_isTagChar (hl.isTagChar c hc)).2
  have hlookup : Element.lookup [("class", some ("language-" ++ l))] "class" =
      some ("language-" ++ l) := rfl
  rw [languageOf, hlookup, Option.getD_some, Text.words_eq_singleton (by simp) hblank,
    List.findSome?_cons, Text.after?_append]

/-- A code block at the start of a page is written as the block that it comes from. -/
theorem write_codeBlock (hl : IsLanguage l) (hcode : IsFenceable code) :
    write style (codeRoot l (Block.escapeCode (code ++ fillers))) rawHtml =
      .ok (fenced l code) := by
  have hkind : Kind.of "pre" [] = .preformatted := rfl
  have hinner (attrs : Attrs) (t : Text) :
      (Element.mk "code" attrs (some t) [] none).innerText = t := List.append_nil t
  have hsole (attrs : Attrs) (t : Text) : soleCode? [.mk "code" attrs (some t) [] none] =
      some (.mk "code" attrs (some t) [] none) := rfl
  have hfence (language : Text) : writeFence language (code ++ fillers) ({} : State).blankLine =
      ((({} : State).write (ticks ++ language ++ "\n")).write code).write ('\n' :: ticks) := by
    simp only [writeFence, trimEnd_fillers hcode]
    rfl
  have hstrip : Text.stripEnd (fenced l code) = fenced l code := by
    have hlast : fenced l code = ticks ++ l ++ '\n' :: code ++ "\n\x60\x60" ++ ['\x60'] := by
      simp [fenced, ticks]
    rw [hlast, Text.stripEnd, Text.trimEnd_concat_of_false rfl]
  have hnone (s : State) : writeText? style rawHtml none s = s := rfl
  simp only [write, Element.text, Element.children, codeRoot, codeBlock, hnone, writeAll,
    writeElement, openElement, Element.tag, Element.attrs, hkind, hsole, hinner,
    unescapeCode_escapeCode, languageOf_tag hl, hfence, Except.map, State.write, Output.text_write]
  simpa [Output.text, fenced] using hstrip

end Writer

/-- **A fenced block survives being read and written**: the tree holds the code, with line feeds
behind it, as text under its language, what comes out is the block, whatever its code says, and no
name in the code is asked for. -/
theorem write_parse_fenced (style : Writer.Style) (resolve? : Option (Text → Option Element))
    (hl : IsLanguage l) (hcode : IsFenceable code) :
    let d := Document.parse resolve? (fenced l code)
    d.root = codeRoot l (Block.escapeCode (code ++ fillers)) ∧
      Writer.write style d.root d.rawHtml = .ok (fenced l code) ∧ d.names = [] ∧
      d.isSound = true := by
  rw [parse_fenced hl hcode]
  exact ⟨rfl, Writer.write_codeBlock hl hcode, rfl, rfl⟩

/-- A code that looks like markup of every kind. -/
def markupCode : Text := "# <b>&lt; [Name]\n~~~\n- *x* | \\\x7b#id\x7d\n\n    y"

theorem write_parse_fenced_markup :
    IsLanguage "c++" ∧ IsFenceable markupCode ∧
      let d := Document.parse (some fun _ ↦ none) (fenced "c++" markupCode)
      d.root = codeRoot "c++" (Block.escapeCode (markupCode ++ fillers)) ∧
        Writer.write ⟨[], "dart"⟩ d.root d.rawHtml = .ok (fenced "c++" markupCode) ∧
        d.names = [] ∧ d.isSound = true := by
  have hl : IsLanguage "c++" := ⟨by decide, List.all_eq_true.mp rfl, by decide⟩
  have hno : ∀ line ∈ lines markupCode, '\x60' ∉ line := by decide
  have hcode : IsFenceable markupCode :=
    ⟨by decide, by decide, by decide, by decide, by decide, by decide,
      fun m n hmem ↦ hno _ hmem (by simp [ticks])⟩
  exact ⟨hl, hcode, write_parse_fenced _ _ hl hcode⟩

end ApiSite.Markup
