import ApiSite.Page.Block
import ApiSite.Proofs.Quotation

/-!
# The metadata of a page

A value of the metadata block is a quotation of the text that it was made from
(`quotes_escapeMetadata`). So each entry of the block stays on its line, no value can close the
block or add a field to it, and the fields are read back with the texts that they were given
(`metadata_readsBack`).
-/

set_option autoImplicit false

namespace ApiSite.Page

/-- How values are quoted in the metadata block. -/
def metadataQuotation : Quotation where
  mark := '"'
  escapes := [('\\', '\\'), ('"', '"'), ('\n', 'n'), ('\r', 'r')]
  meaning? letter := [('\\', '\\'), ('"', '"'), ('n', '\n'), ('r', '\r')].lookup letter
  meaning?_of_mem := by decide
  mark_mem := by decide
  backslash_mem := by decide
  mark_ne_backslash := by decide
  not_isBreak_letter := by decide
  ordered := by decide

/-- What separates the metadata from the page. -/
def rule : Text := "---"

/-- The name and the value of a field with a quoted value. -/
def quotedField? (line : Text) : Option (Text × Text) :=
  match Text.cut? ": " line with
  | some (name, '"' :: rest) =>
    match metadataQuotation.read rest with
    | some (value, []) => some (name, value)
    | _ => none
  | _ => none

variable {name value title description : Text} {outline : Outline} {category library : Option Text}

/-! ### Values -/

theorem escapeMetadata_eq (t : Text) : escapeMetadata t = metadataQuotation.escape t :=
  metadataQuotation.replaceEach_escapes t

theorem quotes_escapeMetadata (t : Text) : metadataQuotation.Quotes (escapeMetadata t) t := by
  rw [escapeMetadata_eq]
  refine Quotation.quotes_escape_iff.mpr fun c _ hc ↦ ?_
  rcases hc with rfl | rfl <;> decide

/-! ### Lines -/

theorem cut?_colon_append (hname : ':' ∉ name) (t : Text) :
    Text.cut? ": " (name ++ (": " ++ t)) = some (name, t) :=
  Text.cut?_append_pair (by decide) fun h ↦ hname (h.subset List.mem_cons_self)

theorem quotedField?_metadataLine (hname : ':' ∉ name) (value : Text) :
    quotedField? (metadataLine name value) = some (name, value) := by
  have hline : metadataLine name value =
      name ++ (": " ++ ('"' :: (escapeMetadata value ++ ['"']))) := by
    simp [metadataLine]
  have hread : metadataQuotation.read (escapeMetadata value ++ ['"']) = some (value, []) :=
    (quotes_escapeMetadata value).read_append []
  rw [quotedField?, hline, cut?_colon_append hname]
  simp only [hread]

theorem quotedField?_eq_none (hname : ':' ∉ name) (hvalue : value.head? ≠ some '"') :
    quotedField? (name ++ (": " ++ value)) = none := by
  rw [quotedField?, cut?_colon_append hname]
  split
  · next heq =>
    obtain ⟨-, rfl⟩ := Prod.mk.inj (Option.some.inj heq)
    exact absurd rfl hvalue
  · rfl

theorem isOneLine_metadataLine (hname : IsOneLine name) (value : Text) :
    IsOneLine (metadataLine name value) :=
  ((hname.append (by decide)).append (quotes_escapeMetadata value).isOneLine).append (by decide)

theorem isOneLine_ofInt (i : ℤ) : IsOneLine (Text.ofInt i) := by
  have hdigits (n : ℕ) : IsOneLine (Text.ofNat n) := by
    intro c hc hbreak
    have hdigit := Text.isDigit_of_mem_ofNat hc
    rcases hbreak with rfl | rfl <;> exact absurd hdigit (by decide)
  cases i with
  | ofNat n => exact hdigits n
  | negSucc n => exact (show IsOneLine ['-'] by decide).append (hdigits (n + 1))

theorem isOneLine_toText (outline : Outline) : IsOneLine outline.toText := by
  cases outline with
  | shown isShown => cases isShown <;> decide
  | levels levels =>
    refine IsOneLine.append (IsOneLine.append (by decide) fun c hc ↦ ?_) (by decide)
    rcases Text.mem_of_mem_join hc with hc | ⟨piece, hpiece, hc⟩
    · exact (by decide : IsOneLine ", ".toList) c hc
    · obtain ⟨i, -, rfl⟩ := List.mem_map.mp hpiece
      exact isOneLine_ofInt i c hc

theorem head?_toText_ne (outline : Outline) : outline.toText.head? ≠ some '"' := by
  cases outline with
  | shown isShown => cases isShown <;> decide
  | levels levels => exact fun h ↦ absurd h (by rw [Outline.toText]; simp)

/-! ### The block -/

/-- A field that may be left out. -/
def optionalField (name : Text) (value : Option Text) : List (Text × Text) :=
  (value.map (Prod.mk name)).toList

/-- The fields with a quoted value. -/
def quotedFields (title description : Text) (category library : Option Text) :
    List (Text × Text) :=
  let given : List (Text × Text) := [("title", title), ("description", description)]
  given ++ optionalField "category" category ++ optionalField "library" library

/-- The other fields. -/
def plainFields (outline : Outline) : List Text :=
  ["outline: " ++ outline.toText, "editLink: false", "prev: false", "next: false"]

/-- The lines between the two rules. -/
def fieldLines (title description : Text) (outline : Outline) (category library : Option Text) :
    List Text :=
  (quotedFields title description category library).map
    (fun field ↦ metadataLine field.1 field.2) ++ plainFields outline

theorem metadata_eq : metadata title description outline category library =
    rule :: (fieldLines title description outline category library ++ [rule, []]) := by
  cases category <;> cases library <;> rfl

theorem isPlainName_of_mem {field : Text × Text}
    (hfield : field ∈ quotedFields title description category library) :
    IsOneLine field.1 ∧ ':' ∉ field.1 := by
  have hoptional {name : Text} {value : Option Text} (h : field ∈ optionalField name value) :
      field.1 = name := by
    obtain ⟨_, -, rfl⟩ := Option.map_eq_some_iff.mp (Option.mem_toList.mp h)
    rfl
  simp only [quotedFields, List.mem_append, List.mem_cons, List.not_mem_nil, or_false] at hfield
  rcases hfield with ((rfl | rfl) | hcategory) | hlibrary
  · exact (by decide : IsOneLine "title".toList ∧ ':' ∉ "title".toList)
  · exact (by decide : IsOneLine "description".toList ∧ ':' ∉ "description".toList)
  · exact hoptional hcategory ▸ by decide
  · exact hoptional hlibrary ▸ by decide

theorem rule_notMem_fieldLines :
    rule ∉ fieldLines title description outline category library := by
  -- Each field has a colon, behind its name.
  have hcolon : ∀ line ∈ fieldLines title description outline category library, ':' ∈ line := by
    intro line hline
    rw [fieldLines, List.mem_append, List.mem_map] at hline
    rcases hline with ⟨field, -, rfl⟩ | hplain
    · simp [metadataLine]
    · simp only [plainFields, List.mem_cons, List.not_mem_nil, or_false] at hplain
      rcases hplain with rfl | rfl | rfl | rfl <;> simp
  exact fun hmem ↦ absurd (hcolon rule hmem) (by decide)

theorem isOneLine_of_mem_metadata {line : Text}
    (hline : line ∈ metadata title description outline category library) : IsOneLine line := by
  rw [metadata_eq, List.mem_cons, List.mem_append, fieldLines, List.mem_append] at hline
  rcases hline with rfl | (hquoted | hplain) | hend
  · decide
  · obtain ⟨field, hfield, rfl⟩ := List.mem_map.mp hquoted
    exact isOneLine_metadataLine (isPlainName_of_mem hfield).1 field.2
  · rcases List.mem_cons.mp hplain with rfl | hfixed
    · exact IsOneLine.append (by decide) (isOneLine_toText outline)
    · exact (by decide : ∀ line ∈ (["editLink: false", "prev: false", "next: false"] : List Text),
        IsOneLine line) line hfixed
  · exact (by decide : ∀ line ∈ [rule, []], IsOneLine line) line hend

theorem filterMap_quotedField?_metadata :
    (metadata title description outline category library).filterMap quotedField? =
      quotedFields title description category library := by
  have houtline : quotedField? ("outline: " ++ outline.toText) = none :=
    quotedField?_eq_none (show ':' ∉ "outline".toList by decide) (head?_toText_ne outline)
  have hplain : (plainFields outline).filterMap quotedField? = [] := by
    rw [plainFields, List.filterMap_cons_none houtline]
    decide
  have hends : ([rule, []] : List Text).filterMap quotedField? = [] := by decide
  have hquoted : ∀ field ∈ quotedFields title description category library,
      quotedField? (metadataLine field.1 field.2) = some field := fun field hfield ↦
    quotedField?_metadataLine (isPlainName_of_mem hfield).2 field.2
  calc (metadata title description outline category library).filterMap quotedField?
      = (fieldLines title description outline category library).filterMap quotedField? := by
        rw [metadata_eq, List.filterMap_cons_none (by decide), List.filterMap_append, hends,
          List.append_nil]
    _ = (quotedFields title description category library).filterMap
          fun field ↦ quotedField? (metadataLine field.1 field.2) := by
        rw [fieldLines, List.filterMap_append, hplain, List.append_nil, List.filterMap_map]
        rfl
    _ = quotedFields title description category library := by
        rw [List.filterMap_congr hquoted, List.filterMap_some]

/-- **Nothing breaks out of the metadata.** Every value is quoted whole, whatever it holds. So the
block has a rule as its first line and as its last line but one and nowhere else, each of its
entries is one line of the page, and its fields are read back with the values that they were
given. -/
theorem metadata_readsBack (title description : Text) (outline : Outline)
    (category library : Option Text) :
    let block := metadata title description outline category library
    (∀ t, metadataQuotation.Quotes (escapeMetadata t) t) ∧
      (∃ fields, block = rule :: (fields ++ [rule, []]) ∧ rule ∉ fields) ∧
      (∀ line ∈ block, IsOneLine line) ∧ Text.lines (Text.unlines block) = block ∧
      block.filterMap quotedField? = quotedFields title description category library := by
  intro block
  have hlines (line : Text) (hline : line ∈ block) : IsOneLine line :=
    isOneLine_of_mem_metadata hline
  have hblock : block ≠ [] := by
    rw [show block = _ from metadata_eq]
    exact List.cons_ne_nil _ _
  refine ⟨quotes_escapeMetadata, ⟨_, metadata_eq, rule_notMem_fieldLines⟩, hlines, ?_,
    filterMap_quotedField?_metadata⟩
  exact Text.splitOn_join hblock fun line hline hbreak ↦ hlines line hline _ hbreak (Or.inl rfl)

end ApiSite.Page
