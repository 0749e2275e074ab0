import ApiSite.Proofs.Reference.Operators

/-!
# References as they are written

Around the names of a reference stand decorations: a word in front, type arguments behind any name,
and marks at the end. Reading drops the decorations (`parse_text`) and gives the names back, unless
the path is taken for an operator or a question mark stands behind the parentheses of a call; then
it gives something else (`parts_parse_iff`).
-/

set_option autoImplicit false

namespace ApiSite.Reference

open Text (isBlank splitOn)

/-- What can stand before a path. -/
inductive Opening where
  | plain
  | new
  | const
  deriving DecidableEq

def Opening.text : Opening → Text
  | plain => []
  | new => "new "
  | const => "const "

/-- What can stand behind a path: a question mark, the parentheses of a call, or both. -/
inductive Ending where
  | plain
  | nullable
  | call
  | nullableCall
  | callNullable
  deriving DecidableEq

/-- Whether an ending ends with the parentheses of a call. -/
def Ending.isCall : Ending → Bool
  | call | nullableCall => true
  | plain | nullable | callNullable => false

/-- An ending up to the parentheses of a call at its end. -/
def Ending.mark : Ending → Text
  | plain | call => []
  | nullable | nullableCall => "?"
  | callNullable => "()?"

def Ending.text (e : Ending) : Text := e.mark ++ if e.isCall then ['(', ')'] else []

/-- A reference as a text writes it: at least one part, with what stands before and behind. -/
structure Spelling where
  opening : Opening
  first : Part
  rest : List Part
  ending : Ending

namespace Spelling

def parts (s : Spelling) : List Part := s.first :: s.rest

/-- The names of the path. -/
def names (s : Spelling) : List Text := s.parts.map Part.name

def text (s : Spelling) : Text := s.opening.text ++ path s.parts ++ s.ending.text

/-- What is left to read once a word in front and the parentheses of a call are dropped. -/
def body (s : Spelling) : Text := path s.parts ++ s.ending.mark

end Spelling

variable {c : Char} {t word tail : Text} {p : Part} {parts : List Part} {e : Ending}

/-! ### Marks -/

theorem isTail_mark (e : Ending) : IsTail e.mark := by
  cases e <;> refine ⟨fun c hc ↦ ?_, fun c hc ↦ ?_⟩ <;> cases hc <;> decide

theorem isTail_text (e : Ending) : IsTail e.text := by
  cases e <;> refine ⟨fun c hc ↦ ?_, fun c hc ↦ ?_⟩ <;> cases hc <;> decide

/-- What is left of the marks behind a path: parentheses before a question mark stay. -/
def Ending.kept : Ending → Text
  | callNullable => ['(', ')']
  | plain | nullable | call | nullableCall => []

theorem trimEnd_mark (hc : (c == '?' || c == '!') = false) :
    Text.trimEnd (fun c ↦ c == '?' || c == '!') (t ++ [c] ++ e.mark) = t ++ [c] ++ e.kept := by
  have hplain := Text.trimEnd_concat_of_false (t := t) (p := fun c ↦ c == '?' || c == '!') hc
  have hmark {u : Text} : Text.trimEnd (fun c ↦ c == '?' || c == '!') (u ++ ['?']) =
      Text.trimEnd (fun c ↦ c == '?' || c == '!') u := Text.trimEnd_concat_of_true rfl
  cases e with
  | plain => rw [Ending.mark, Ending.kept, List.append_nil, hplain]
  | nullable => exact hmark.trans (hplain.trans (List.append_nil _).symm)
  | call => rw [Ending.mark, Ending.kept, List.append_nil, hplain]
  | nullableCall => exact hmark.trans (hplain.trans (List.append_nil _).symm)
  | callNullable =>
    have hcall := Text.trimEnd_concat_of_false (t := t ++ [c] ++ ['(']) (c := ')')
      (p := fun c ↦ c == '?' || c == '!') rfl
    have hleft : t ++ [c] ++ Ending.callNullable.mark = t ++ [c] ++ ['('] ++ [')'] ++ ['?'] := by
      simp [Ending.mark]
    have hright : t ++ [c] ++ Ending.callNullable.kept = t ++ [c] ++ ['('] ++ [')'] := by
      simp [Ending.kept]
    rw [hleft, hmark, hcall, hright]

/-- Pieces without dots and white space are read as the names of a path. -/
theorem strip_splitOn_join {pieces : List Text} (hne : pieces ≠ [])
    (hpieces : ∀ piece ∈ pieces, piece ≠ [] ∧ '.' ∉ piece ∧ ∀ c ∈ piece, isBlank c = false) :
    ((splitOn '.' (Text.join "." pieces)).map Text.strip).filter (fun p ↦ !p.isEmpty) = pieces := by
  have hsplit : splitOn '.' (Text.join "." pieces) = pieces :=
    Text.splitOn_join hne fun piece hpiece ↦ (hpieces piece hpiece).2.1
  have hstrip : pieces.map Text.strip = pieces.map id := List.map_congr_left fun piece hpiece ↦ by
    have hblank := (hpieces piece hpiece).2.2
    exact Text.trim_eq_self (fun c hc ↦ hblank c (List.mem_of_mem_head? hc))
      fun c hc ↦ hblank c (List.mem_of_mem_getLast? hc)
  rw [hsplit, hstrip, List.map_id]
  exact List.filter_eq_self.mpr fun piece hpiece ↦ by simpa using (hpieces piece hpiece).1

/-- A path is read as its names; what its marks leave goes to the last of them. -/
theorem pathOf_path (init : List Part) (q : Part) :
    pathOf (path (init ++ [q]) ++ e.mark) = init.map Part.name ++ [q.name ++ e.kept] := by
  have hbracket : '<' ∉ e.mark := by cases e <;> decide
  have hdrop : dropArguments 0 (path (init ++ [q]) ++ e.mark) =
      Text.join "." ((init ++ [q]).map Part.name) ++ e.mark := by
    obtain ⟨p, parts, heq⟩ := List.exists_cons_of_ne_nil (List.append_ne_nil_of_right_ne_nil init
      (List.cons_ne_nil q []))
    rw [heq, dropArguments_path p parts hbracket]
  obtain hnil | ⟨front, c, hname⟩ := List.eq_nil_or_concat q.name
  · exact absurd hnil q.name_ne_nil
  rw [List.concat_eq_append] at hname
  have hc : isNameChar c = true := q.isNameChar c (by simp [hname])
  have hmark : (c == '?' || c == '!') = false := by
    simp [ne_of_isNameChar hc (x := '?') (by decide), ne_of_isNameChar hc (x := '!') (by decide)]
  have hjoin : Text.join "." ((init ++ [q]).map Part.name) =
      Text.join "." (init.map Part.name ++ [front]) ++ [c] := by
    rw [List.map_append, List.map_singleton, hname, Text.join_concat_append]
  have hkept : Text.join "." (init.map Part.name ++ [front]) ++ [c] ++ e.kept =
      Text.join "." (init.map Part.name ++ [q.name ++ e.kept]) := by
    rw [Text.join_concat_append, hname, Text.join_concat_append]
  have hkeptChars : ∀ x ∈ e.kept, isBlank x = false ∧ x ≠ '.' := fun x hx ↦ by
    cases e with
    | callNullable =>
      rcases List.mem_pair.mp hx with rfl | rfl <;> decide
    | plain | nullable | call | nullableCall => exact absurd hx List.not_mem_nil
  rw [pathOf, hdrop, hjoin]
  simp only [trimEnd_mark hmark, hkept]
  refine strip_splitOn_join (List.append_ne_nil_of_right_ne_nil _ (List.cons_ne_nil _ _)) ?_
  intro piece hpiece
  rcases List.mem_append.mp hpiece with hpiece | hpiece
  · obtain ⟨p, -, rfl⟩ := List.mem_map.mp hpiece
    exact ⟨p.name_ne_nil, p.not_mem_name (by decide),
      fun x hx ↦ isBlank_of_isNameChar (p.isNameChar x hx)⟩
  · obtain rfl := List.mem_singleton.mp hpiece
    refine ⟨by simp [q.name_ne_nil], fun hdot ↦ ?_, fun x hx ↦ ?_⟩
    · exact (List.mem_append.mp hdot).elim (q.not_mem_name (by decide))
        fun hdot ↦ (hkeptChars '.' hdot).2 rfl
    · exact (List.mem_append.mp hx).elim (fun hx ↦ isBlank_of_isNameChar (q.isNameChar x hx))
        fun hx ↦ (hkeptChars x hx).1

/-! ### References -/

theorem beforeCall?_eq_none (hc : c ≠ ')') : beforeCall? (t ++ [c]) = none := by
  rw [beforeCall?, List.reverse_append, List.reverse_singleton, List.singleton_append]
  split
  · next heq => exact absurd (List.cons.inj heq).1 hc
  · rfl

theorem beforeCall?_call (t : Text) : beforeCall? (t ++ ['(', ')']) = some t := by
  rw [beforeCall?, List.reverse_append]
  simp [isBlank]

theorem afterSpacedWord?_append {w : Text} (ht : ∀ c ∈ t.head?, isBlank c = false) :
    afterSpacedWord? w (w ++ ' ' :: t) = some t := by
  have hstrip : Text.stripStart (' ' :: t) = t := by
    rw [Text.stripStart, Text.trimStart, List.dropWhile_cons_of_pos (by decide)]
    exact stripStart_eq_self ht
  rw [afterSpacedWord?, Text.after?_append]
  show some (Text.stripStart (' ' :: t)) = some t
  rw [hstrip]

/-- A path begins with no word that white space follows. -/
theorem afterSpacedWord?_path (htail : IsTail tail) (hword : ∀ c ∈ word, isNameChar c = true) :
    afterSpacedWord? word (path (p :: parts) ++ tail) = none := by
  rw [afterSpacedWord?, path_append_eq]
  cases hafter : Text.after? word (p.name ++ (p.arguments ++ (dotted parts ++ tail))) with
  | none => rfl
  | some rest =>
    have hblank := isBlank_of_append_eq p.isNameChar (follows_of_isTail htail) hword
      (Text.eq_append_of_after? hafter)
    have hhead : rest.head?.any isBlank = false := by
      cases rest with
      | nil => rfl
      | cons c rest => exact hblank c rfl
    show (if rest.head?.any isBlank = true then _ else _) = _
    rw [hhead]
    rfl

namespace Spelling

variable (s : Spelling)

theorem path_append_text : path s.parts ++ s.ending.text =
    s.body ++ if s.ending.isCall then ['(', ')'] else [] := by
  rw [body, Ending.text, List.append_assoc]

/-- What is left to read ends neither with white space nor with the parentheses of a call. -/
theorem exists_body_last : ∃ before c, s.body = before ++ [c] ∧ isBlank c = false ∧ c ≠ ')' := by
  obtain ⟨before, c, hpath, hc⟩ := exists_path_last s.first s.rest
  have hlast : isBlank c = false ∧ c ≠ ')' := by
    rcases hc with hc | rfl
    · exact ⟨isBlank_of_isNameChar hc, ne_of_isNameChar hc (by decide)⟩
    · decide
  rw [body, parts, hpath]
  cases s.ending with
  | plain => exact ⟨before, c, List.append_nil _, hlast⟩
  | nullable => exact ⟨_, '?', rfl, by decide⟩
  | call => exact ⟨before, c, List.append_nil _, hlast⟩
  | nullableCall => exact ⟨_, '?', rfl, by decide⟩
  | callNullable =>
    exact ⟨before ++ [c] ++ ['(', ')'], '?', by simp [Ending.mark], by decide⟩

theorem isBlank_head_path : ∀ c ∈ (path s.parts ++ s.ending.text).head?, isBlank c = false := by
  obtain ⟨c, name, hname, hc⟩ := s.first.exists_head
  intro d hd
  rw [parts, path_append_eq, hname] at hd
  exact Option.some.inj hd ▸ isBlank_of_isNameChar hc

theorem strip_text : Text.strip s.text = s.text := by
  refine Text.trim_eq_self (fun c hc ↦ ?_) fun c hc ↦ ?_
  · rw [text, List.append_assoc] at hc
    cases hopening : s.opening <;> rw [hopening] at hc
    · exact s.isBlank_head_path c hc
    · exact Option.some.inj hc ▸ (by decide)
    · exact Option.some.inj hc ▸ (by decide)
  · obtain ⟨before, d, hbody, hd, -⟩ := s.exists_body_last
    rw [text, List.append_assoc, path_append_text, hbody] at hc
    split at hc
    · have hcall : s.opening.text ++ (before ++ [d] ++ ['(', ')']) =
          s.opening.text ++ before ++ [d, '('] ++ [')'] := by simp
      rw [hcall, List.getLast?_concat] at hc
      exact Option.some.inj hc ▸ (by decide)
    · rw [List.append_nil, ← List.append_assoc, List.getLast?_concat] at hc
      exact Option.some.inj hc ▸ hd

theorem afterConstructorWord?_text : afterConstructorWord? s.text =
    if s.opening = .plain then none else some (path s.parts ++ s.ending.text) := by
  have hhead := s.isBlank_head_path
  rw [afterConstructorWord?, text, List.append_assoc]
  cases s.opening with
  | plain =>
    have hnone {word : Text} (hword : ∀ c ∈ word, isNameChar c = true) :
        afterSpacedWord? word (path s.parts ++ s.ending.text) = none :=
      afterSpacedWord?_path (isTail_text s.ending) hword
    rw [Opening.text, List.nil_append, hnone (List.all_eq_true.mp rfl),
      hnone (List.all_eq_true.mp rfl)]
    rfl
  | new =>
    have hnew : afterSpacedWord? "new" (Opening.new.text ++ (path s.parts ++ s.ending.text)) =
        some (path s.parts ++ s.ending.text) := afterSpacedWord?_append (w := "new") hhead
    rw [hnew]
    rfl
  | const =>
    have hconst : afterSpacedWord? "const" (Opening.const.text ++ (path s.parts ++ s.ending.text)) =
        some (path s.parts ++ s.ending.text) := afterSpacedWord?_append (w := "const") hhead
    rw [hconst]
    rfl

theorem beforeCall?_path : beforeCall? (path s.parts ++ s.ending.text) =
    if s.ending.isCall then some s.body else none := by
  obtain ⟨before, c, hbody, -, hc⟩ := s.exists_body_last
  rw [path_append_text]
  split
  · exact beforeCall?_call s.body
  · rw [List.append_nil, hbody, beforeCall?_eq_none hc]

/-- Reading drops a word in front and the parentheses of a call, and keeps in mind that they were
there. -/
theorem parse_text : parse s.text =
    ⟨s.text, (operator? s.body).getD (pathOf s.body), s.ending.isCall, s.opening ≠ .plain⟩ := by
  have hplain (h : s.opening = .plain) : s.text = path s.parts ++ s.ending.text := by
    rw [text, h, Opening.text, List.nil_append]
  have hbody (h : s.ending.isCall = false) : path s.parts ++ s.ending.text = s.body := by
    simp [path_append_text, h]
  rw [parse]
  simp only [strip_text, afterConstructorWord?_text]
  by_cases hopening : s.opening = .plain
  · simp only [hopening, if_true, hplain hopening, beforeCall?_path]
    cases hcall : s.ending.isCall <;> simp [hbody, hcall]
  · simp only [hopening, if_false, beforeCall?_path]
    cases hcall : s.ending.isCall <;> simp [hbody, hcall, hopening]

theorem parts_parse_of_not_meansOperator (hmeans : ¬MeansOperator s.parts s.ending.mark) :
    (parse s.text).parts = s.names ↔ s.ending ≠ .callNullable := by
  have hnone : operator? s.body = none :=
    (operator?_path_eq_none_iff (isTail_mark _) (List.cons_ne_nil _ _)).mpr hmeans
  obtain hnil | ⟨init, q, hconcat⟩ := List.eq_nil_or_concat s.parts
  · cases hnil
  rw [List.concat_eq_append] at hconcat
  rw [parse_text, hnone, Option.getD_none, body, names, hconcat, pathOf_path, List.map_append,
    List.map_singleton, List.append_cancel_left_eq]
  cases s.ending <;> simp [Ending.kept]

/-- A single name is read as itself if it does not begin with the word for operators. -/
theorem parse_name {name : Text} (hne : name ≠ []) (hchars : ∀ c ∈ name, isNameChar c = true)
    (hoperator : ¬"operator".toList <+: name) (opening : Opening) (hending : e ≠ .callNullable) :
    parse (opening.text ++ name ++ e.text) =
      ⟨opening.text ++ name ++ e.text, [name], e.isCall, opening ≠ .plain⟩ := by
  let s : Spelling := ⟨opening, ⟨name, [], hne, hchars, Or.inl rfl⟩, [], e⟩
  have htext : opening.text ++ name ++ e.text = s.text := by
    rw [text, parts, path_of_isPlain (by simp [s])]
    simp [s, Text.join]
  have hparts : (parse s.text).parts = [name] := by
    refine (s.parts_parse_of_not_meansOperator ?_).mpr hending
    exact not_meansOperator (isTail_mark e) (by simpa [s, parts] using hoperator)
  rw [s.parse_text] at hparts
  rw [htext, s.parse_text]
  exact congrArg (Reference.mk s.text · e.isCall (decide (opening ≠ .plain))) hparts

/-- **Names are read as they are written.** Whatever decorations stand around the names of a
reference, reading it gives just these names, unless the path is taken for an operator or a question
mark stands behind the parentheses of a call; in these cases it gives something else. -/
theorem parts_parse_iff (s : Spelling) : (parse s.text).parts = s.names ↔
    ¬MeansOperator s.parts s.ending.mark ∧ s.ending ≠ .callNullable := by
  by_cases hmeans : MeansOperator s.parts s.ending.mark
  · have hparts : s.parts ≠ [] := List.cons_ne_nil _ _
    refine iff_of_false ?_ fun h ↦ h.1 hmeans
    rw [parse_text]
    cases hfound : operator? s.body with
    | none => exact absurd hmeans ((operator?_path_eq_none_iff (isTail_mark _) hparts).mp hfound)
    | some found => exact ne_names_of_operator? (isTail_mark _) hparts hfound
  · rw [s.parts_parse_of_not_meansOperator hmeans]
    exact (and_iff_right hmeans).symm

example : (parse "new Map<String, List<int>>.from?()").parts = Text.ofStrings ["Map", "from"] := by
  decide

/-- A name that goes on behind the word for operators is no operator, but is read as one. -/
example : (parse "operators").parts = Text.ofStrings ["s"] := by decide

end Spelling

end ApiSite.Reference
