import ApiSite.Page.Heading
import ApiSite.Proofs.LetterCase
import ApiSite.Proofs.Location.Directories
import Mathlib.Algebra.Ring.Parity

/-!
# Code in the documentation of a member

A block of code begins at a line that starts with a run of three or more backticks or tildes, and
ends at the next line that is only spaces and a run of the same character that is no shorter
(`openBlock`). The headings of a documentation are lowered with less than this: one mark is flipped
at every line that starts with three backticks or tildes behind white space.

Each line that begins or ends a block flips the mark. The other lines that do so are strays: an
indented run outside of blocks; in a block a run of the other character, a shorter one, or one with
text behind it. So behind an even number of strays the mark says whether a line stands in a block,
and behind an odd number it says the opposite (`inFence_eq`). Which lines are lowered is settled by
this (`lowerHeadings_code_kept_iff`).
-/

set_option autoImplicit false

namespace ApiSite.Page

open Text (lines unlines isBlank)

variable {line : Text}

/-! ### Blocks of code -/

/-- A block of code, by the run that opens it. -/
structure Block where
  mark : Char
  length : Nat
  isMark : mark = '\x60' ∨ mark = '~'
  isLong : 3 ≤ length
  deriving DecidableEq

/-- The block that a line opens outside of blocks. -/
def opened? : Text → Option Block
  | [] => none
  | c :: t =>
    let length := (t.takeWhile (· == c)).length + 1
    if h : (c = '\x60' ∨ c = '~') ∧ 3 ≤ length then some ⟨c, length, h.1, h.2⟩ else none

/-- Whether a line in a block ends it. -/
def Block.isEndedBy (b : Block) (line : Text) : Bool :=
  let run := Text.trim (· == ' ') line
  decide (b.length ≤ run.length) && run.all (· == b.mark)

/-- The block that the line behind a line stands in. -/
def nextBlock (b : Option Block) (line : Text) : Option Block :=
  match b with
  | none => opened? line
  | some b => if b.isEndedBy line then none else some b

/-- The block that the line behind some lines stands in. -/
def openBlock (before : List Text) : Option Block := before.foldl nextBlock none

/-- Lines that flip the mark, but neither open nor end a block. -/
def isStray (b : Option Block) (line : Text) : Bool := isFence line && nextBlock b line == b

def straysFrom : Option Block → List Text → Nat
  | _, [] => 0
  | b, line :: rest => (isStray b line).toNat + straysFrom (nextBlock b line) rest

/-- The number of strays among the first lines of a documentation. -/
def strays (before : List Text) : Nat := straysFrom none before

/-! ### Fences -/

/-- Behind white space, a run of three backticks or tildes makes a fence. -/
theorem isFence_of_run {c : Char} (hc : c = '\x60' ∨ c = '~') {blanks rest : Text}
    (hblanks : ∀ x ∈ blanks, isBlank x = true) :
    isFence (blanks ++ c :: c :: c :: rest) = true := by
  have hstrip {d : Char} {run : Text} (hd : ¬isBlank d = true) :
      Text.stripStart (blanks ++ d :: run) = d :: run :=
    (List.dropWhile_append_of_pos hblanks).trans (List.dropWhile_cons_of_neg hd)
  unfold isFence
  rcases hc with rfl | rfl
  · rw [hstrip (by decide)]
    rfl
  · rw [hstrip (by decide)]
    rfl

/-- A run of three or more begins with three. -/
theorem exists_eq_cons_of_all {c : Char} {run : Text} (hlength : 3 ≤ run.length)
    (hrun : run.all (· == c) = true) : ∃ rest, run = c :: c :: c :: rest := by
  obtain ⟨a, b, d, rest, rfl⟩ : ∃ a b d rest, run = a :: b :: d :: rest :=
    match run, hlength with
    | a :: b :: d :: rest, _ => ⟨a, b, d, rest, rfl⟩
  simp only [List.all_cons, Bool.and_eq_true, beq_iff_eq] at hrun
  obtain ⟨rfl, rfl, rfl, -⟩ := hrun
  exact ⟨rest, rfl⟩

theorem isFence_of_opened? {b : Block} (h : opened? line = some b) : isFence line = true := by
  unfold opened? at h
  split at h
  · cases h
  · next c t =>
    simp only at h
    split at h
    · next hopened =>
      have hlength : 3 ≤ ((c :: t).takeWhile (· == c)).length := by
        simpa using hopened.2
      obtain ⟨rest, hrest⟩ := exists_eq_cons_of_all (c := c) hlength List.all_takeWhile
      have hline : c :: t = c :: c :: c :: (rest ++ (c :: t).dropWhile (· == c)) := by
        have h := List.takeWhile_append_dropWhile (p := (· == c)) (l := c :: t)
        rw [hrest] at h
        exact h.symm
      rw [hline]
      have hblanks : ∀ x ∈ ([] : Text), isBlank x = true := fun x hx ↦ absurd hx List.not_mem_nil
      exact isFence_of_run hopened.1 hblanks
    · cases h

theorem Block.isFence_of_isEndedBy {b : Block} (h : b.isEndedBy line = true) :
    isFence line = true := by
  obtain ⟨before, after, hline, hbefore, -⟩ := Text.exists_eq_append_trim (· == ' ') line
  obtain ⟨hlength, hrun⟩ := Bool.and_eq_true_iff.mp h
  obtain ⟨rest, hrest⟩ :=
    exists_eq_cons_of_all (b.isLong.trans (of_decide_eq_true hlength)) hrun
  have hblanks : ∀ x ∈ before, isBlank x = true := by
    intro x hx
    rw [beq_iff_eq.mp (hbefore x hx)]
    decide
  rw [hline, hrest, List.append_assoc]
  exact isFence_of_run b.isMark hblanks

/-- Only fences open or end a block. -/
theorem of_nextBlock_ne {b : Option Block} (h : nextBlock b line ≠ b) :
    isFence line = true ∧ (nextBlock b line).isSome = !b.isSome := by
  cases b with
  | none =>
    obtain ⟨b, hopened⟩ := Option.ne_none_iff_exists'.mp h
    exact ⟨isFence_of_opened? hopened, congrArg Option.isSome hopened⟩
  | some b =>
    unfold nextBlock at h ⊢
    simp only at h ⊢
    split at h
    · next hended => exact ⟨Block.isFence_of_isEndedBy hended, by simp [hended]⟩
    · exact absurd rfl h

/-- A line changes whether a block is open just if it flips the mark and is no stray. -/
theorem isSome_nextBlock (b : Option Block) (line : Text) :
    (nextBlock b line).isSome = (b.isSome != (isFence line != isStray b line)) := by
  unfold isStray
  by_cases h : nextBlock b line = b
  · rw [h, beq_self_eq_true, Bool.and_true, bne_self_eq_false, Bool.bne_false]
  · obtain ⟨hfence, hsome⟩ := of_nextBlock_ne h
    rw [hsome, hfence, beq_eq_false_iff_ne.mpr h, Bool.true_and, Bool.bne_false, Bool.bne_true]

/-! ### The mark -/

/-- The mark behind some lines. -/
def inFence (before : List Text) : Bool :=
  before.foldl (fun mark line ↦ mark != isFence line) false

theorem decide_odd_add (stray : Bool) (n : Nat) :
    decide (Odd (stray.toNat + n)) = (stray != decide (Odd n)) := by
  cases stray with
  | false => simp
  | true =>
    rw [Bool.toNat_true, Nat.add_comm, Bool.true_bne, ← decide_not]
    exact decide_eq_decide.mpr Nat.odd_add_one

/-- A mark that says whether a block is open, or the opposite, keeps doing so up to the next stray,
and from there on it says what it did not say before. -/
theorem foldl_mark_eq (b : Option Block) (isWrong : Bool) (before : List Text) :
    before.foldl (fun mark line ↦ mark != isFence line) (b.isSome != isWrong) =
      ((before.foldl nextBlock b).isSome != (isWrong != decide (Odd (straysFrom b before)))) := by
  induction before generalizing b isWrong with
  | nil => simp [straysFrom]
  | cons line before ih =>
    have hmark : ((b.isSome != isWrong) != isFence line) =
        ((nextBlock b line).isSome != (isWrong != isStray b line)) := by
      rw [isSome_nextBlock]
      cases b.isSome <;> cases isWrong <;> cases isFence line <;> cases isStray b line <;> rfl
    rw [List.foldl_cons, List.foldl_cons, straysFrom, hmark, ih, decide_odd_add, Bool.bne_assoc]

/-- The mark before a line is right just behind an even number of strays. -/
theorem inFence_eq (before : List Text) :
    inFence before = ((openBlock before).isSome != decide (Odd (strays before))) := by
  have h := foldl_mark_eq none false before
  rwa [Bool.false_bne] at h

/-! ### Lines -/

theorem lowerHeadingsFrom_append (anchor : Text) (mark : Bool) (before rest : List Text) :
    lowerHeadingsFrom anchor mark (before ++ rest) = lowerHeadingsFrom anchor mark before ++
      lowerHeadingsFrom anchor (before.foldl (fun mark line ↦ mark != isFence line) mark) rest := by
  induction before generalizing mark with
  | nil => rfl
  | cons line before ih =>
    rw [List.cons_append, lowerHeadingsFrom, lowerHeadingsFrom, ih]
    rfl

theorem length_lowerHeadingsFrom (anchor : Text) (mark : Bool) (ls : List Text) :
    (lowerHeadingsFrom anchor mark ls).length = ls.length := by
  induction ls generalizing mark with
  | nil => rfl
  | cons line ls ih => exact congrArg (· + 1) (ih _)

theorem isFence_of_headingMarks? {marks : Text} (h : headingMarks? line = some marks) :
    isFence line = false := by
  obtain ⟨t, rfl⟩ : ∃ t, line = '#' :: t := by
    unfold headingMarks? at h
    simp only at h
    split at h
    · next hmarks =>
      cases line with
      | nil => exact absurd hmarks.1 (Nat.lt_irrefl 0)
      | cons c t =>
        by_cases hc : c = '#'
        · exact ⟨t, by rw [hc]⟩
        · have hnone : (c :: t).takeWhile (· == '#') = [] :=
            List.takeWhile_cons_of_neg (by simpa using hc)
          rw [hnone] at hmarks
          exact absurd hmarks.1 (Nat.lt_irrefl 0)
    · cases h
  rfl

/-- A line of a documentation below the heading of a member, given the lines before it. -/
def loweredLine (anchor : Text) (before : List Text) (line : Text) : Text :=
  match headingMarks? line with
  | none => line
  | some marks =>
    if (openBlock before).isSome ↔ Odd (strays before) then lowerHeading anchor marks line
    else line

theorem loweredLine_of_code {anchor : Text} {before : List Text}
    (hopen : (openBlock before).isSome) : loweredLine anchor before line = line ↔
      ∀ marks, headingMarks? line = some marks → lowerHeading anchor marks line ≠ line →
        Even (strays before) := by
  unfold loweredLine
  cases headingMarks? line with
  | none => simp
  | some marks =>
    simp only [hopen, true_iff, Option.some.injEq, forall_eq', ← Nat.not_odd_iff_even]
    split
    · next hodd => simp [hodd]
    · next hodd => simp [hodd]

theorem getElem?_lowerHeadingsFrom (anchor : Text) (before after : List Text) :
    (lowerHeadingsFrom anchor false (before ++ line :: after))[before.length]? =
      some (loweredLine anchor before line) := by
  have hlength := length_lowerHeadingsFrom anchor false before
  rw [lowerHeadingsFrom_append, List.getElem?_append_right hlength.le, hlength, Nat.sub_self,
    lowerHeadingsFrom, List.getElem?_cons_zero, loweredLine]
  cases hmarks : headingMarks? line with
  | none => simp
  | some marks =>
    have hmark := inFence_eq before
    unfold inFence at hmark
    rw [isFence_of_headingMarks? hmarks, Bool.bne_false, hmark]
    generalize (openBlock before).isSome = isOpen
    by_cases hodd : Odd (strays before)
    · cases isOpen <;> simp [hodd]
    · cases isOpen <;> simp [hodd]

/-! ### Line feeds -/

theorem dropAnchor_eq_nil {t replacement : Text} {size : Nat}
    (h : dropAnchor t = some (size, replacement)) : replacement = [] := by
  obtain ⟨rest, -, h⟩ := Option.bind_eq_some_iff.mp h
  simp only at h
  split at h
  · split at h
    · cases h
    · cases h
      rfl
  · cases h

theorem mem_of_mem_substituteFirst_dropAnchor {c : Char}
    (hc : c ∈ Text.substituteFirst dropAnchor line) : c ∈ line := by
  rcases Text.substituteFirst_cases dropAnchor line with
    ⟨heq, -⟩ | ⟨before, s, size, replacement, rfl, hrule, heq, -⟩
  · rwa [heq] at hc
  · rw [heq, dropAnchor_eq_nil hrule, List.nil_append] at hc
    exact (List.mem_append.mp hc).elim (List.mem_append_left _) fun h ↦
      List.mem_append_right _ (List.mem_of_mem_drop h)

theorem lineFeed_not_mem_anchor (t : Text) : '\n' ∉ Naming.anchor t := by
  refine Text.not_mem_lower (by decide) (by decide) fun hmem ↦ ?_
  exact Location.not_mem_hyphenateFrom (by decide) (by decide) (Text.mem_of_mem_trim hmem)

variable {anchor : Text} (hanchor : '\n' ∉ anchor)

include hanchor

theorem lineFeed_not_mem_anchorMark (t : Text) :
    '\n' ∉ anchorMark (anchor ++ '-' :: Naming.anchor t) := by
  unfold anchorMark
  simp only [List.mem_append, List.mem_cons, not_or]
  exact ⟨⟨by decide, hanchor, by decide, lineFeed_not_mem_anchor t⟩, by decide⟩

theorem lineFeed_not_mem_lowerHeading {marks : Text} (hline : '\n' ∉ line) :
    '\n' ∉ lowerHeading anchor marks line := by
  have hdropped := mt mem_of_mem_substituteFirst_dropAnchor hline
  have hfront : '\n' ∉ if marks.length ≤ 4 then "##" ++ Text.substituteFirst dropAnchor line
      else Text.substituteFirst dropAnchor line := by
    split
    · exact List.not_mem_append (by decide) hdropped
    · exact hdropped
  have hanchored {t : Text} (ht : '\n' ∉ t) : '\n' ∉ if (Naming.anchor t).isEmpty then t
      else t ++ anchorMark (anchor ++ '-' :: Naming.anchor t) := by
    split
    · exact ht
    · exact List.not_mem_append ht (lineFeed_not_mem_anchorMark hanchor t)
  exact hanchored hfront

theorem lineFeed_not_mem_lowerHeadingsFrom {ls : List Text} (hls : ∀ line ∈ ls, '\n' ∉ line)
    (mark : Bool) : ∀ line ∈ lowerHeadingsFrom anchor mark ls, '\n' ∉ line := by
  induction ls generalizing mark with
  | nil => exact fun line h ↦ absurd h List.not_mem_nil
  | cons line ls ih =>
    obtain ⟨hline, hls⟩ := List.forall_mem_cons.mp hls
    rw [lowerHeadingsFrom]
    refine List.forall_mem_cons.mpr ⟨?_, ih hls _⟩
    split
    · exact lineFeed_not_mem_lowerHeading hanchor hline
    · exact hline

omit hanchor in
/-- **Code in the documentation of a member.** Below the heading of the member, a documentation has
as many lines as before. Only headings are changed, and those exactly that stand outside of blocks
behind an even number of strays, or in a block behind an odd number. So code is kept just if each
line of it that could be changed as a heading stands behind an even number of strays. -/
theorem lowerHeadings_code_kept_iff (anchor doc : Text) :
    ∃ ls, lowerHeadings anchor doc = unlines ls ∧ ls.length = (lines doc).length ∧
      ('\n' ∉ anchor → lines (lowerHeadings anchor doc) = ls) ∧
      (∀ before line, before ++ [line] <+: lines doc →
        ls[before.length]? = some (loweredLine anchor before line)) ∧
      ((∀ before line, before ++ [line] <+: lines doc → (openBlock before).isSome →
          ls[before.length]? = some line) ↔
        ∀ before line, before ++ [line] <+: lines doc → (openBlock before).isSome →
          ∀ marks, headingMarks? line = some marks → lowerHeading anchor marks line ≠ line →
            Even (strays before)) := by
  have hlength := length_lowerHeadingsFrom anchor false (lines doc)
  have hlines {before : List Text} {line : Text} (h : before ++ [line] <+: lines doc) :
      (lowerHeadingsFrom anchor false (lines doc))[before.length]? =
        some (loweredLine anchor before line) := by
    obtain ⟨after, h⟩ := h
    rw [← h, List.append_assoc]
    exact getElem?_lowerHeadingsFrom anchor before after
  refine ⟨_, rfl, hlength, fun hanchor ↦ ?_, fun _ _ ↦ hlines, ?_⟩
  · have hne : lowerHeadingsFrom anchor false (lines doc) ≠ [] := by
      rw [ne_eq, ← List.length_eq_zero_iff, hlength, List.length_eq_zero_iff]
      exact Text.splitOn_ne_nil '\n' doc
    exact Text.splitOn_join hne (lineFeed_not_mem_lowerHeadingsFrom hanchor
      (fun _ ↦ Text.not_mem_of_mem_splitOn) false)
  · refine forall₂_congr fun before line ↦ forall₂_congr fun h hopen ↦ ?_
    rw [hlines h, Option.some.injEq, loweredLine_of_code hopen]

/-- A line of tildes in a block of backticks makes a comment in the code a heading. -/
example : lowerHeadings "peel" "\x60\x60\x60\n~~~\n# x\n\x60\x60\x60" =
    "\x60\x60\x60\n~~~\n### x \x7b#peel-x\x7d\n\x60\x60\x60" := by
  decide +kernel

end ApiSite.Page
