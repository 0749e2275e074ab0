import ApiSite.Proofs.Quotation
import ApiSite.Scaffold

/-!
# Literal texts

The navigation and the configuration of the site are modules of TypeScript, and names and addresses
stand in them as literals in single quotation marks. Backslashes and quotation marks are escaped in
a literal, so that it never ends early. Line breaks are not escaped: it says the text that it was
made from exactly if this has none (`isLiteralOf_literal_iff`).

The address of a repository is written without what it says about a branch (`NamesBranch`,
`IsWithoutBranch`).
-/

set_option autoImplicit false

namespace ApiSite.Scaffold

/-- How literals are written. A literal that is read may have all escapes of a single letter. -/
def literalQuotation : Quotation where
  mark := '\''
  escapes := [('\\', '\\'), ('\'', '\'')]
  meaning? letter := [('\\', '\\'), ('\'', '\''), ('"', '"'), ('n', '\n'), ('r', '\r'),
    ('t', '\t'), ('b', '\x08'), ('v', '\x0b'), ('f', '\x0c')].lookup letter
  meaning?_of_mem := by decide
  mark_mem := by decide
  backslash_mem := by decide
  mark_ne_backslash := by decide
  not_isBreak_letter := by decide
  ordered := by decide

/-- What names a branch at the end of an address, and a way in it. A line feed may be left. -/
inductive NamesBranch : Text → Text → Prop
  | branch {name : Text} (hname : name ≠ []) (hslash : '/' ∉ name) :
      NamesBranch ("/tree/" ++ name) []
  | way {name way left : Text} (hname : name ≠ []) (hslash : '/' ∉ name) (hway : '\n' ∉ way)
      (hleft : left = [] ∨ left = "\n") :
      NamesBranch ("/tree/" ++ (name ++ '/' :: (way ++ left))) left

/-- An address without the first part of it that names a branch. -/
def IsWithoutBranch (url address : Text) : Prop :=
  (address = url ∧ ∀ s, s <:+ url → ∀ left, ¬NamesBranch s left) ∨
  ∃ before s left, url = before ++ s ∧ NamesBranch s left ∧ address = before ++ left ∧
    ∀ u, u <:+ url → s.length < u.length → ∀ left, ¬NamesBranch u left

/-- A quotation with both of its marks that is complete and says a text. -/
def IsLiteralOf (written t : Text) : Prop :=
  ∃ inside, written = '\'' :: (inside ++ ['\'']) ∧ literalQuotation.Quotes inside t

variable {t left name way : Text}

/-! ### Literals -/

theorem literal_eq (t : Text) :
    literal t = '\'' :: (literalQuotation.escape t ++ ['\'']) := by
  rw [← literalQuotation.replaceEach_escapes]
  rfl

theorem isLiteralOf_literal_iff : IsLiteralOf (literal t) t ↔ IsOneLine t := by
  have hplain (c : Char) (hc : IsBreak c) : ¬literalQuotation.IsEscaped c := by
    rcases hc with rfl | rfl <;> decide
  calc IsLiteralOf (literal t) t
      ↔ literalQuotation.Quotes (literalQuotation.escape t) t := by
        simp [IsLiteralOf, literal_eq]
    _ ↔ ∀ c ∈ t, IsBreak c → literalQuotation.IsEscaped c := Quotation.quotes_escape_iff
    _ ↔ IsOneLine t :=
        forall₂_congr fun c _ ↦ ⟨fun h hc ↦ hplain c hc (h hc), fun h hc ↦ absurd hc h⟩

/-! ### Branches -/

theorem dropWhile_way_append (hway : '\n' ∉ way) (hleft : left = [] ∨ left.head? = some '\n') :
    ('/' :: (way ++ left)).dropWhile (· != '\n') = left := by
  have hslash : '\n' ∉ '/' :: way := List.not_mem_cons_of_ne_of_not_mem (by decide) hway
  rcases hleft with rfl | hleft
  · rw [List.append_nil]
    exact Text.dropWhile_ne_eq_nil_iff.mpr hslash
  · obtain ⟨more, rfl⟩ := List.head?_eq_some_iff.mp hleft
    exact Text.dropWhile_append_stop (s := '/' :: way) hslash

theorem dropBranch_append (rest : Text) : dropBranch ("/tree/" ++ rest) =
    let left := (rest.dropWhile (· != '/')).dropWhile (· != '\n')
    if rest.head?.all (· == '/') || !Text.isAtEnd left then none
    else some (Text.upTo ("/tree/" ++ rest) left []) := by
  rw [dropBranch, Text.after?_append]
  rfl

theorem head?_all_eq_false (hname : name ≠ []) (hslash : '/' ∉ name) :
    (name ++ t).head?.all (· == '/') = false := by
  cases name with
  | nil => exact absurd rfl hname
  | cons c name => exact beq_false_of_ne (List.ne_of_not_mem_cons hslash).symm

theorem NamesBranch.dropBranch_eq (h : NamesBranch t left) :
    dropBranch t = some (Text.upTo t left []) := by
  cases h with
  | @branch name hname hslash =>
    have hend : name.dropWhile (· != '/') = [] := Text.dropWhile_ne_eq_nil_iff.mpr hslash
    have hhead := head?_all_eq_false (t := []) hname hslash
    rw [List.append_nil] at hhead
    simp only [dropBranch_append, hend, hhead, List.dropWhile_nil]
    rfl
  | @way name way left hname hslash hway hleft =>
    have hleft' : left = [] ∨ left.head? = some '\n' := by
      rcases hleft with rfl | rfl
      · exact Or.inl rfl
      · exact Or.inr rfl
    have hend : Text.isAtEnd left = true := Text.isAtEnd_iff.mpr hleft
    simp only [dropBranch_append, Text.dropWhile_append_stop hslash,
      dropWhile_way_append hway hleft', head?_all_eq_false hname hslash, hend]
    rfl

theorem NamesBranch.suffix (h : NamesBranch t left) : left <:+ t := by
  cases h with
  | branch => exact List.nil_suffix
  | @way name way => exact ⟨"/tree/" ++ (name ++ '/' :: way), by simp⟩

theorem exists_namesBranch {found : ℕ × Text} (h : dropBranch t = some found) :
    ∃ left, NamesBranch t left ∧ found = Text.upTo t left [] := by
  obtain ⟨rest, hafter, -⟩ := Option.bind_eq_some_iff.mp h
  obtain rfl := Text.eq_append_of_after? hafter
  simp only [dropBranch_append, Option.ite_none_left_eq_some, Bool.or_eq_true, not_or,
    Bool.not_eq_true, Bool.not_eq_false, Bool.not_eq_true'] at h
  obtain ⟨⟨hhead, hend⟩, hfound⟩ := h
  have hname {name t : Text} (hrest : rest = name ++ t) (ht : t.head?.all (· == '/') = true) :
      name ≠ [] := by
    rintro rfl
    rw [hrest, List.nil_append, ht] at hhead
    cases hhead
  by_cases hmem : '/' ∈ rest
  · obtain ⟨name, after, rfl, hslash⟩ := List.eq_append_cons_of_mem hmem
    obtain ⟨way, left, rfl, hway, hleft⟩ : ∃ way left, after = way ++ left ∧ '\n' ∉ way ∧
        (left = [] ∨ left.head? = some '\n') := by
      by_cases hbreak : '\n' ∈ after
      · obtain ⟨way, more, rfl, hway⟩ := List.eq_append_cons_of_mem hbreak
        exact ⟨way, '\n' :: more, rfl, hway, Or.inr rfl⟩
      · exact ⟨after, [], (List.append_nil after).symm, hbreak, Or.inl rfl⟩
    rw [Text.dropWhile_append_stop hslash, dropWhile_way_append hway hleft] at hend hfound
    exact ⟨left, .way (hname rfl rfl) hslash hway (Text.isAtEnd_iff.mp hend),
      (Option.some.inj hfound).symm⟩
  · rw [Text.dropWhile_ne_eq_nil_iff.mpr hmem] at hfound
    exact ⟨[], .branch (hname (List.append_nil rest).symm rfl) hmem,
      (Option.some.inj hfound).symm⟩

theorem isWithoutBranch_substituteFirst (url : Text) :
    IsWithoutBranch url (Text.substituteFirst dropBranch url) := by
  have hnone {u : Text} (hu : dropBranch u = none) (left : Text) : ¬NamesBranch u left :=
    fun h ↦ Option.some_ne_none _ (h.dropBranch_eq.symm.trans hu)
  rcases Text.substituteFirst_cases dropBranch url with
    ⟨heq, hnowhere⟩ | ⟨before, s, size, replacement, hurl, hsome, heq, hfirst⟩
  · refine Or.inl ⟨heq, fun s hs left h ↦ ?_⟩
    have hs' : s ≠ [] := by
      rintro rfl
      cases h.dropBranch_eq
    exact hnone (hnowhere s hs hs') left h
  · obtain ⟨left, hbranch, hfound⟩ := exists_namesBranch hsome
    obtain ⟨rfl, rfl⟩ := Prod.mk.inj hfound
    refine Or.inr ⟨before, s, left, hurl, hbranch, ?_,
      fun u hu hlength ↦ hnone (hfirst u hu hlength)⟩
    rw [heq, List.nil_append, ← List.suffix_iff_eq_drop.mp hbranch.suffix]

theorem exists_repositoryLinks {url : Text} (hurl : url ≠ []) :
    ∃ icon address, (icon = "github".toList ∨ icon = "gitlab".toList) ∧
      IsWithoutBranch url address ∧
      repositoryLinks url =
        "[\x7b icon: '" ++ icon ++ "', link: " ++ literal address ++ " \x7d]" := by
  have haddress := isWithoutBranch_substituteFirst url
  rw [repositoryLinks, if_neg (by simpa using hurl)]
  generalize Text.substituteFirst dropBranch url = address at haddress
  cases h : Text.occursIn "gitlab.com" address && !Text.occursIn "github.com" address with
  | true => exact ⟨"gitlab", address, Or.inr rfl, haddress, by simp only [h]; rfl⟩
  | false => exact ⟨"github", address, Or.inl rfl, haddress, by simp only [h]; rfl⟩

/-- **Literals hold any text of one line.** No mark within a literal ends it, and it is complete and
says its text exactly if no line ends in this. The address of a repository is such a literal,
without what it says about a branch. -/
theorem literals_hold_text (t : Text) {url : Text} (hurl : url ≠ []) :
    (∃ inside, literal t = '\'' :: (inside ++ ['\'']) ∧ literalQuotation.IsClosed inside) ∧
    (IsLiteralOf (literal t) t ↔ IsOneLine t) ∧
    ∃ icon address, (icon = "github".toList ∨ icon = "gitlab".toList) ∧
      IsWithoutBranch url address ∧
      repositoryLinks url =
        "[\x7b icon: '" ++ icon ++ "', link: " ++ literal address ++ " \x7d]" ∧
      (IsLiteralOf (literal address) address ↔ IsOneLine address) := by
  obtain ⟨icon, address, hicon, haddress, hlinks⟩ := exists_repositoryLinks hurl
  exact ⟨⟨literalQuotation.escape t, literal_eq t, literalQuotation.isClosed_escape t⟩,
    isLiteralOf_literal_iff, icon, address, hicon, haddress, hlinks, isLiteralOf_literal_iff⟩

theorem literals_hold_text_fruit :
    "https://fruit.dev/tree/main" ≠ ([] : Text) ∧
    IsLiteralOf (literal "Granny's\\Apple") "Granny's\\Apple" ∧
    ¬IsLiteralOf (literal "Apple\nPie") "Apple\nPie" := by
  have hurl : "https://fruit.dev/tree/main" ≠ ([] : Text) := by decide
  exact ⟨hurl, (literals_hold_text "Granny's\\Apple" hurl).2.1.mpr (by decide),
    mt (literals_hold_text "Apple\nPie" hurl).2.1.mp (by decide)⟩

end ApiSite.Scaffold
