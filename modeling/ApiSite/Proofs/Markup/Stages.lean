import ApiSite.Proofs.Markup.Attributes
import ApiSite.Proofs.Markup.Blocks

/-!
# The stages of reading

Between a source and its document stand the reading of its blocks and that of its inline markup.
The stages around these two look for what few sources have: tabs and foreign line ends, fences, raw
markup, attribute lists, headings. A source without any of that is the document that the two
readings make of it (`parse_of_blocks`).
-/

set_option autoImplicit false

namespace ApiSite.Markup

open Text (lines unlines)

/-! ### Trees without headings -/

namespace HeadingIds

mutual

/-- Whether a tree has no headings. -/
def isHeadless : Element → Bool
  | .mk tag _ _ children _ => !headingTags.contains tag && areHeadless children

def areHeadless : List Element → Bool
  | [] => true
  | e :: rest => isHeadless e && areHeadless rest

end

variable {rawHtml used : List Text}

theorem areHeadless_iff {es : List Element} :
    areHeadless es = true ↔ ∀ e ∈ es, isHeadless e = true := by
  induction es with
  | nil => simp [areHeadless]
  | cons e es ih => simp [areHeadless, ih]

mutual

theorem assign_of_isHeadless :
    ∀ e : Element, isHeadless e = true → assign rawHtml e used = (e, used)
  | .mk tag attrs text children tail, h => by
    simp only [isHeadless, Bool.and_eq_true, Bool.not_eq_true'] at h
    simp only [assign, h.1, Bool.false_eq_true, if_false, assignAll_of_areHeadless children h.2]

/-- A tree without headings gets no ids. -/
theorem assignAll_of_areHeadless :
    ∀ es : List Element, areHeadless es = true → assignAll rawHtml es used = (es, used)
  | [], _ => rfl
  | e :: es, h => by
    simp only [areHeadless, Bool.and_eq_true] at h
    simp only [assignAll, assign_of_isHeadless e h.1, assignAll_of_areHeadless es h.2]

end

mutual

theorem areGiven_of_isHeadless : ∀ e : Element, isHeadless e = true → areGiven e = true
  | .mk tag attrs text children tail, h => by
    simp only [isHeadless, Bool.and_eq_true, Bool.not_eq_true'] at h
    simp only [areGiven, h.1, areGivenIn_of_areHeadless children h.2, Bool.false_and,
      Bool.not_false, Bool.and_self]

/-- No heading lacks a value where there are no headings. -/
theorem areGivenIn_of_areHeadless :
    ∀ es : List Element, areHeadless es = true → areGivenIn es = true
  | [], _ => rfl
  | e :: es, h => by
    simp only [areHeadless, Bool.and_eq_true] at h
    simp only [areGivenIn, areGiven_of_isHeadless e h.1, areGivenIn_of_areHeadless es h.2,
      Bool.and_self]

end

end HeadingIds

/-! ### Documents -/

variable {t : Text} {root read : Element} {names : List Text} {next : Nat}
  {resolve? : Option (Text → Option Element)}

/-- A source without fences, in which lines are ended and indented in one way. -/
structure IsUnfenced (t : Text) : Prop extends IsUniform t where
  notBlank : Text.isBlankText t = false
  fence : ∀ line ∈ lines t, Fence.opener? line = none

/-- A source with nothing to set aside before its blocks are read: no fence, no tag and no
character reference. -/
structure IsUnmarked (t : Text) : Prop extends IsUnfenced t where
  angle : '<' ∉ t
  ampersand : '&' ∉ t

theorem IsUnmarked.extract_eq (ht : IsUnmarked t) :
    RawHtml.extract (t ++ ['\n', '\n']) = (t ++ ['\n', '\n'], []) :=
  extract_rawHtml_eq_nil (by simpa using ht.angle) (by simpa using ht.ampersand)

/-- **A source whose blocks are read at once is what these and their inline markup are read as**, if
it has no raw markup blocks, attribute lists and headings. -/
theorem parse_of_stages {rawHtml : List Text} (ht : IsUnfenced t)
    (hraw : RawHtml.extract (t ++ ['\n', '\n']) = (t ++ ['\n', '\n'], []))
    (hblocks : Block.parse [] (t ++ ['\n', '\n']) = (root, []))
    (hinline : Inline.read ⟨[], resolve?⟩ root ⟨[], [], 0⟩ = (read, ⟨rawHtml, names, next⟩))
    (hattributes : Attributes.read read = read) (hheadless : HeadingIds.isHeadless read = true) :
    Document.parse resolve? t = ⟨read, rawHtml, names, true⟩ := by
  have hlines := ht.uniformLines_eq
  have hsource : unlines (lines t ++ [[], []]) = t ++ ['\n', '\n'] := by
    rw [← lines_append_blankLine, unlines, lines, Text.join_splitOn]
  have hfences : Fence.extract (lines t ++ [[], []]) = (lines t ++ [[], []], []) := by
    refine extract_fences_eq_nil fun line hline ↦ ?_
    rcases List.mem_append.mp hline with hline | hline
    · exact ht.fence line hline
    · obtain rfl : line = [] := by simpa using hline
      rfl
  have hids : HeadingIds.read rawHtml read = read := by
    rw [HeadingIds.read, HeadingIds.assign_of_isHeadless read hheadless]
  have hgiven := HeadingIds.areGiven_of_isHeadless read hheadless
  rw [Document.parse, ht.notBlank, if_neg Bool.false_ne_true]
  simp only [hlines, hfences, hsource, hraw, hblocks, hinline, hattributes, hids, hgiven]

/-- **A source with nothing to set aside is what its blocks and their inline markup are read as**,
if no attribute list and no heading is among that. -/
theorem parse_of_blocks (ht : IsUnmarked t)
    (hblocks : Block.parse [] (t ++ ['\n', '\n']) = (root, []))
    (hinline : Inline.read ⟨[], resolve?⟩ root ⟨[], [], 0⟩ = (read, ⟨[], names, next⟩))
    (hbrace : '\x7b' ∉ read.innerText) (htail : read.tail = none)
    (hheadless : HeadingIds.isHeadless read = true) :
    Document.parse resolve? t = ⟨read, [], names, true⟩ :=
  parse_of_stages ht.toIsUnfenced ht.extract_eq hblocks hinline
    (Attributes.read_eq_self hbrace (by simp [htail])) hheadless

end ApiSite.Markup
