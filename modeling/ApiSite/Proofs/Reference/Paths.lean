import ApiSite.Reference
import ApiSite.Proofs.Markup.EscapedText
import ApiSite.Proofs.WordChars

/-!
# Paths of names

A reference is a path: names with dots between them, each perhaps with type arguments behind it.
Where the path is cut at a dot with nothing but names and dots before it, the cut is between two of
its parts, and those before it are plain (`exists_split`): a dot within type arguments has a bracket
before it. Without its type arguments a path is its names with dots between them
(`dropArguments_path`).
-/

set_option autoImplicit false

namespace ApiSite.Reference

open Text (isBlank)
open Markup.AngleBrackets (Closes not_closes_nil)

/-- A character of names: a letter, a numeral, an underscore or a dollar sign. -/
def isNameChar (c : Char) : Bool := Text.isWord c || c == '$'

/-- Type arguments: a bracket, and what follows up to where the number of open brackets first
returns to zero. -/
def IsArguments (t : Text) : Prop := ∃ rest, t = '<' :: rest ∧ Closes 1 rest

/-- A name of a path with the type arguments behind it. -/
structure Part where
  name : Text
  arguments : Text
  name_ne_nil : name ≠ []
  isNameChar : ∀ c ∈ name, isNameChar c = true
  isArguments : arguments = [] ∨ IsArguments arguments

def Part.written (p : Part) : Text := p.name ++ p.arguments

/-- The parts of a path with dots between them. -/
def path (parts : List Part) : Text := Text.join "." (parts.map Part.written)

/-- A text that can stand behind a path: it begins with a mark and does not end with white space. -/
structure IsTail (t : Text) : Prop where
  begins : ∀ c ∈ t.head?, c = '?' ∨ c = '('
  ends : ∀ c ∈ t.getLast?, isBlank c = false

variable {c : Char} {t u word name owner rest tail : Text} {p : Part}
  {parts before after : List Part} {n : Nat}

/-! ### Characters of names -/

theorem isBlank_of_isNameChar (hc : isNameChar c = true) : isBlank c = false := by
  rcases Bool.or_eq_true _ _ |>.mp hc with hc | hc
  · exact Text.isBlank_of_isWord hc
  · rw [beq_iff_eq.mp hc]
    decide

theorem ne_of_isNameChar {x : Char} (hc : isNameChar c = true) (hx : isNameChar x = false) :
    c ≠ x := by
  rintro rfl
  rw [hc] at hx
  cases hx

theorem isOwnerChar_iff : isOwnerChar c = true ↔ isNameChar c = true ∨ c = '.' := by
  rw [isOwnerChar, isNameChar, Bool.or_eq_true _ (c == '.'), beq_iff_eq]

theorem Part.exists_head (p : Part) :
    ∃ c rest, p.name = c :: rest ∧ Reference.isNameChar c = true := by
  obtain ⟨c, rest, hname⟩ := List.exists_cons_of_ne_nil p.name_ne_nil
  exact ⟨c, rest, hname, p.isNameChar c (hname ▸ List.mem_cons_self)⟩

theorem Part.not_mem_name (p : Part) {x : Char} (hx : Reference.isNameChar x = false) :
    x ∉ p.name :=
  Text.not_mem_of_all p.isNameChar hx

/-- What can stand behind a name: nothing that a name could go on with, and no white space. -/
def Follows (t : Text) : Prop := ∀ c ∈ t.head?, isNameChar c = false ∧ isBlank c = false

/-- Where a text of a name and what follows it begins with a word, no white space comes behind the
word. -/
theorem isBlank_of_append_eq (hname : ∀ c ∈ name, isNameChar c = true) (hu : Follows u)
    (hword : ∀ c ∈ word, isNameChar c = true) (h : name ++ u = word ++ rest) :
    ∀ c ∈ rest.head?, isBlank c = false := by
  intro c hc
  rcases List.append_eq_append_iff.mp h with ⟨more, rfl, rfl⟩ | ⟨more, rfl, rfl⟩
  · cases more with
    | nil => exact (hu c hc).2
    | cons d more =>
      have hd := (hu d rfl).1
      rw [hword d (by simp)] at hd
      cases hd
  · cases more with
    | nil => exact (hu c hc).2
    | cons d more =>
      obtain rfl := Option.some.inj hc
      exact isBlank_of_isNameChar (hname d (by simp))

/-! ### Paths -/

/-- What stands behind the first part of a path. -/
def dotted (parts : List Part) : Text := parts.flatMap fun p ↦ '.' :: p.written

theorem path_cons : path (p :: parts) = p.name ++ (p.arguments ++ dotted parts) := by
  rw [path, List.map_cons, Text.join_cons, List.flatMap_map, Part.written, List.append_assoc]
  rfl

theorem dotted_cons : dotted (p :: parts) = '.' :: path (p :: parts) := by
  rw [dotted, List.flatMap_cons, path_cons, Part.written]
  simp [dotted]

theorem path_append (hbefore : before ≠ []) (hafter : after ≠ []) :
    path (before ++ after) = path before ++ '.' :: path after := by
  rw [path, List.map_append, Text.join_append (by simpa using hbefore) (by simpa using hafter)]
  rfl

theorem follows_of_isTail (htail : IsTail tail) :
    Follows (p.arguments ++ (dotted parts ++ tail)) := by
  intro c hc
  rcases p.isArguments with hargs | ⟨rest, hargs, -⟩
  · rw [hargs, List.nil_append] at hc
    cases parts with
    | nil =>
      rcases htail.begins c hc with rfl | rfl <;> decide
    | cons q parts =>
      rw [dotted_cons] at hc
      obtain rfl := Option.some.inj hc
      decide
  · rw [hargs] at hc
    obtain rfl := Option.some.inj hc
    decide

theorem path_append_eq (p : Part) (parts : List Part) (tail : Text) :
    path (p :: parts) ++ tail = p.name ++ (p.arguments ++ (dotted parts ++ tail)) := by
  rw [path_cons]
  simp

/-- A path without type arguments is its names with dots between them. -/
theorem path_of_isPlain (h : ∀ p ∈ parts, p.arguments = []) :
    path parts = Text.join "." (parts.map Part.name) := by
  rw [path]
  congr 1
  refine List.map_congr_left fun p hp ↦ ?_
  rw [Part.written, h p hp, List.append_nil]

theorem isOwnerChar_of_mem_path (h : ∀ p ∈ parts, p.arguments = []) (hc : c ∈ path parts) :
    isOwnerChar c = true := by
  rw [path_of_isPlain h] at hc
  rw [isOwnerChar_iff]
  rcases Text.mem_of_mem_join hc with hc | ⟨name, hname, hc⟩
  · exact Or.inr (List.mem_singleton.mp hc)
  · obtain ⟨p, -, rfl⟩ := List.mem_map.mp hname
    exact Or.inl (p.isNameChar c hc)

/-- A dot behind a name is in neither its type arguments nor the tail: another part follows it. -/
theorem eq_of_follows_dot (htail : IsTail tail)
    (h : p.arguments ++ (dotted parts ++ tail) = '.' :: rest) :
    p.arguments = [] ∧ parts ≠ [] ∧ path parts ++ tail = rest := by
  rcases p.isArguments with hargs | ⟨inside, hargs, -⟩
  · rw [hargs, List.nil_append] at h
    cases parts with
    | nil =>
      have hhead := htail.begins '.' (congrArg List.head? (show tail = _ from h))
      rcases hhead with hhead | hhead <;> cases hhead
    | cons q parts =>
      rw [dotted_cons] at h
      exact ⟨hargs, List.cons_ne_nil q parts, (List.cons.inj h).2⟩
  · rw [hargs] at h
    cases (List.cons.inj h).1

/-- Where an owner stands in front of a dot, so does the first name: it is the owner, or the owner
goes on behind it. -/
theorem follows_dot_of_owner (hu : Follows u) (howner : ∀ c ∈ owner, isOwnerChar c = true)
    (h : p.name ++ u = owner ++ '.' :: rest) :
    ∃ w, u = '.' :: w ∧
      (owner = p.name ∧ w = rest ∨
        ∃ more, owner = p.name ++ '.' :: more ∧ w = more ++ '.' :: rest) := by
  rcases List.append_eq_append_iff.mp h with ⟨more, hmore, heq⟩ | ⟨more, hmore, heq⟩
  · cases more with
    | nil => exact ⟨rest, heq, Or.inl ⟨by rw [hmore, List.append_nil], rfl⟩⟩
    | cons d more =>
      have hd : isNameChar d = false := (hu d (by rw [heq]; rfl)).1
      rcases isOwnerChar_iff.mp (howner d (by simp [hmore])) with hname | rfl
      · rw [hname] at hd
        cases hd
      · exact ⟨_, heq, Or.inr ⟨more, hmore, rfl⟩⟩
  · cases more with
    | nil => exact ⟨rest, heq.symm, Or.inl ⟨by rw [hmore, List.append_nil], rfl⟩⟩
    | cons d more =>
      obtain ⟨rfl, -⟩ := List.cons.inj heq
      exact absurd (p.isNameChar '.' (by simp [hmore])) (by decide)

/-- An owner that stands in front of a dot consists of plain names, and the dot is one of those
between the parts. -/
theorem exists_split (htail : IsTail tail) (h : path parts ++ tail = owner ++ '.' :: rest)
    (hne : owner ≠ []) (howner : ∀ c ∈ owner, isOwnerChar c = true) :
    ∃ before after, parts = before ++ after ∧ before ≠ [] ∧ after ≠ [] ∧
      (∀ p ∈ before, p.arguments = []) ∧ owner = path before ∧ rest = path after ++ tail := by
  induction parts generalizing owner with
  | nil =>
    obtain ⟨c, owner, rfl⟩ := List.exists_cons_of_ne_nil hne
    have htailEq : tail = c :: (owner ++ '.' :: rest) := h
    have hc := howner c List.mem_cons_self
    rcases htail.begins c (htailEq ▸ rfl) with rfl | rfl <;> exact absurd hc (by decide)
  | cons p parts ih =>
    rw [path_append_eq] at h
    obtain ⟨w, hu, hcases⟩ := follows_dot_of_owner (follows_of_isTail htail) howner h
    obtain ⟨hargs, hparts, hpath⟩ := eq_of_follows_dot htail hu
    have hfirst : path [p] = p.name := by
      rw [path_cons, hargs]
      simp [dotted]
    have hplain : ∀ q ∈ [p], q.arguments = [] := by simpa using hargs
    rcases hcases with ⟨rfl, rfl⟩ | ⟨more, rfl, rfl⟩
    · exact ⟨[p], parts, rfl, List.cons_ne_nil p [], hparts, hplain, hfirst.symm, hpath.symm⟩
    · have hmore : more ≠ [] := by
        rintro rfl
        obtain ⟨q, others, rfl⟩ := List.exists_cons_of_ne_nil hparts
        obtain ⟨c, name, hname, hc⟩ := q.exists_head
        rw [path_append_eq, hname] at hpath
        obtain ⟨rfl, -⟩ := List.cons.inj hpath
        exact absurd hc (by decide)
      obtain ⟨before, after, rfl, hbefore, hafter, hbeforePlain, rfl, hrest⟩ :=
        ih hpath hmore fun c hc ↦ howner c (by simp [hc])
      refine ⟨[p] ++ before, after, by simp, List.cons_ne_nil p before, hafter, ?_, ?_, hrest⟩
      · exact fun q hq ↦ (List.mem_append.mp hq).elim (hplain q) (hbeforePlain q)
      · rw [path_append (List.cons_ne_nil p []) hbefore, hfirst]

/-! ### The end of a path -/

theorem Part.exists_last (p : Part) :
    ∃ before c, p.written = before ++ [c] ∧ (Reference.isNameChar c = true ∨ c = '>') := by
  rcases p.isArguments with hargs | ⟨rest, hargs, hcloses⟩
  · obtain hnil | ⟨before, c, hname⟩ := List.eq_nil_or_concat p.name
    · exact absurd hnil p.name_ne_nil
    rw [List.concat_eq_append] at hname
    exact ⟨before, c, by rw [written, hargs, hname, List.append_nil],
      Or.inl (p.isNameChar c (by simp [hname]))⟩
  · obtain rfl | ⟨before, c, rfl⟩ := List.eq_nil_or_concat rest
    · exact absurd hcloses not_closes_nil
    rw [List.concat_eq_append] at hargs hcloses
    have hlast := hcloses.getLast?_eq (by simp)
    rw [List.getLast?_concat, Option.some.injEq] at hlast
    exact ⟨p.name ++ '<' :: before, c, by rw [written, hargs]; simp, Or.inr hlast⟩

theorem exists_path_last (p : Part) (parts : List Part) :
    ∃ before c, path (p :: parts) = before ++ [c] ∧ (isNameChar c = true ∨ c = '>') := by
  obtain hnil | ⟨init, q, hconcat⟩ := List.eq_nil_or_concat (p :: parts)
  · cases hnil
  obtain ⟨before, c, hwritten, hc⟩ := q.exists_last
  obtain ⟨front, hfront⟩ := Text.exists_join_concat (t := q.written) "." (init.map Part.written)
  refine ⟨front ++ before, c, ?_, hc⟩
  rw [hconcat, List.concat_eq_append, path, List.map_append, List.map_singleton, hfront, hwritten,
    List.append_assoc]

theorem isBlank_last_path (htail : IsTail tail) :
    ∀ c ∈ (path (p :: parts) ++ tail).getLast?, isBlank c = false := by
  intro c hc
  obtain rfl | ⟨front, d, rfl⟩ := List.eq_nil_or_concat tail
  · obtain ⟨before, d, hpath, hd⟩ := exists_path_last p parts
    rw [List.append_nil, hpath, List.getLast?_concat] at hc
    obtain rfl := Option.some.inj hc
    rcases hd with hd | rfl
    · exact isBlank_of_isNameChar hd
    · decide
  · rw [List.concat_eq_append, ← List.append_assoc, List.getLast?_concat] at hc
    exact htail.ends c (by rw [List.concat_eq_append, List.getLast?_concat]; exact hc)

/-! ### Type arguments -/

/-- Type arguments are dropped up to the bracket that closes them. -/
theorem dropArguments_of_closes (h : Closes n u) :
    dropArguments n (u ++ t) = dropArguments 0 t := by
  induction u generalizing n with
  | nil =>
    cases n with
    | zero => rfl
    | succ n => exact absurd h not_closes_nil
  | cons c u ih =>
    cases n with
    | zero => cases h.eq_nil
    | succ n =>
      rw [← ih h.step, List.cons_append, dropArguments]
      split <;> rfl

theorem dropArguments_append_of_not_mem (hu : '<' ∉ u) :
    dropArguments 0 (u ++ t) = u ++ dropArguments 0 t := by
  induction u with
  | nil => rfl
  | cons c u ih =>
    have hc : c ≠ '<' := Ne.symm (List.ne_of_not_mem_cons hu)
    rw [List.cons_append, dropArguments, if_neg hc, ih (List.not_mem_of_not_mem_cons hu),
      List.cons_append]

theorem dropArguments_written (p : Part) (t : Text) :
    dropArguments 0 (p.written ++ t) = p.name ++ dropArguments 0 t := by
  rw [Part.written, List.append_assoc,
    dropArguments_append_of_not_mem (p.not_mem_name (by decide))]
  rcases p.isArguments with hargs | ⟨rest, hargs, hcloses⟩
  · rw [hargs, List.nil_append]
  · rw [hargs, List.cons_append, dropArguments, if_pos rfl, dropArguments_of_closes hcloses]

theorem dropArguments_path (p : Part) (parts : List Part) (htail : '<' ∉ tail) :
    dropArguments 0 (path (p :: parts) ++ tail) =
      Text.join "." ((p :: parts).map Part.name) ++ tail := by
  have hdotted (parts : List Part) : dropArguments 0 (dotted parts ++ tail) =
      (parts.map Part.name).flatMap ('.' :: ·) ++ tail := by
    induction parts with
    | nil =>
      have htail := dropArguments_append_of_not_mem (t := []) htail
      rwa [List.append_nil, dropArguments, List.append_nil] at htail
    | cons q parts ih =>
      have hcons : dotted (q :: parts) ++ tail =
          ['.'] ++ (q.written ++ (dotted parts ++ tail)) := by
        simp [dotted]
      rw [hcons, dropArguments_append_of_not_mem (by decide), dropArguments_written, ih]
      simp
  have hfirst : path (p :: parts) ++ tail = p.written ++ (dotted parts ++ tail) := by
    rw [path_append_eq, Part.written, List.append_assoc]
  rw [hfirst, dropArguments_written, hdotted, List.map_cons, Text.join_cons, List.append_assoc]
  rfl

end ApiSite.Reference
