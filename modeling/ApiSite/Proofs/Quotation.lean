import ApiSite.Proofs.Text
import Mathlib.Algebra.Ring.Parity

/-!
# Quoted texts

A text is put between two quotation marks with some of its characters written as a backslash and a
letter. Whatever the text, no mark of it ends the quotation (`Quotation.isClosed_escape`), and it is
read back as it was, unless it has a line break that is not among the characters to be escaped
(`Quotation.read_escape_append_iff`).

The characters are escaped by one replacement after another, and the order counts: backslashes have
to come first, and no letter may be replaced later on. Then all replacements together are one pass
over the text (`Quotation.replaceEach_escapes`).
-/

set_option autoImplicit false

namespace ApiSite

/-- A character that ends a line. -/
def IsBreak (c : Char) : Prop := c = '\n' ∨ c = '\r'

instance (c : Char) : Decidable (IsBreak c) := inferInstanceAs (Decidable (_ ∨ _))

/-- A text that no line ends in. -/
def IsOneLine (t : Text) : Prop := ∀ c ∈ t, ¬IsBreak c

instance (t : Text) : Decidable (IsOneLine t) := List.decidableBAll _ t

/-- A character, or a backslash and the letter for it. -/
def escapeChar (escapes : List (Char × Char)) (c : Char) : Text :=
  match escapes.lookup c with
  | some letter => ['\\', letter]
  | none => [c]

/-- A way to put texts between quotation marks. -/
structure Quotation where
  mark : Char
  /-- Characters that are escaped, each with the letter that is written for it. -/
  escapes : List (Char × Char)
  /-- What a letter behind a backslash stands for. -/
  meaning? : Char → Option Char
  meaning?_of_mem : ∀ e ∈ escapes, meaning? e.2 = some e.1
  mark_mem : mark ∈ escapes.map Prod.fst
  backslash_mem : '\\' ∈ escapes.map Prod.fst
  mark_ne_backslash : mark ≠ '\\'
  not_isBreak_letter : ∀ e ∈ escapes, ¬IsBreak e.2
  /-- No replacement undoes or doubles an earlier one. -/
  ordered : escapes.Pairwise fun e later ↦ later.1 ≠ '\\' ∧ later.1 ≠ e.2

namespace Quotation

/-- A character that is not written as it is. -/
def IsEscaped (q : Quotation) (c : Char) : Prop := c ∈ q.escapes.map Prod.fst

instance (q : Quotation) (c : Char) : Decidable (q.IsEscaped c) :=
  inferInstanceAs (Decidable (_ ∈ _))

/-- A character as it is written. -/
def written (q : Quotation) (c : Char) : Text := escapeChar q.escapes c

/-- A text as it is written between the marks. -/
def escape (q : Quotation) (t : Text) : Text := t.flatMap q.written

/-- Reads on behind the first mark: the text up to the next mark that ends it, and what follows. A
line that ends before is an error. -/
def read (q : Quotation) : Text → Option (Text × Text)
  | '\\' :: letter :: t =>
    (q.meaning? letter).bind fun c ↦ (q.read t).map fun (value, rest) ↦ (c :: value, rest)
  | c :: t =>
    if c = q.mark then some ([], t)
    else if c = '\\' ∨ IsBreak c then none
    else (q.read t).map fun (value, rest) ↦ (c :: value, rest)
  | [] => none

end Quotation

/-- How many backslashes a text ends with. -/
def backslashesAtEnd (t : Text) : ℕ := (t.reverse.takeWhile (· == '\\')).length

/-- Between two marks there is no third one that would end the quotation. -/
structure Quotation.IsClosed (q : Quotation) (inside : Text) : Prop where
  odd_before_mark : ∀ before after, inside = before ++ q.mark :: after →
    Odd (backslashesAtEnd before)
  even_at_end : Even (backslashesAtEnd inside)

/-- What stands between two marks is all on one line, does not end early and says a text. -/
structure Quotation.Quotes (q : Quotation) (inside t : Text) : Prop extends q.IsClosed inside where
  isOneLine : IsOneLine inside
  read_append : ∀ rest, q.read (inside ++ q.mark :: rest) = some (t, rest)

/-- Replaces characters by a backslash and a letter, one kind after the other. -/
def replaceEach (escapes : List (Char × Char)) (t : Text) : Text :=
  escapes.foldl (fun t e ↦ Text.replace [e.1] ['\\', e.2] t) t

theorem IsOneLine.append {s t : Text} (hs : IsOneLine s) (ht : IsOneLine t) :
    IsOneLine (s ++ t) := by
  intro c hc
  rcases List.mem_append.mp hc with hc | hc
  · exact hs c hc
  · exact ht c hc

namespace Quotation

variable {q : Quotation} {c : Char} {t rest : Text}

/-! ### Characters -/

theorem ne_backslash (hplain : ¬q.IsEscaped c) : c ≠ '\\' := fun h ↦ hplain (h ▸ q.backslash_mem)

theorem ne_mark (hplain : ¬q.IsEscaped c) : c ≠ q.mark := fun h ↦ hplain (h ▸ q.mark_mem)

/-- A character is written as a backslash and its letter, or as it is. -/
theorem written_cases (q : Quotation) (c : Char) :
    (∃ letter, (c, letter) ∈ q.escapes ∧ q.written c = ['\\', letter]) ∨
      ¬q.IsEscaped c ∧ q.written c = [c] := by
  cases h : q.escapes.lookup c with
  | some letter =>
    obtain ⟨before, after, hescapes, -⟩ := List.lookup_eq_some_iff.mp h
    have hmem : (c, letter) ∈ q.escapes := by
      rw [hescapes]
      exact List.mem_append_right _ List.mem_cons_self
    exact Or.inl ⟨letter, hmem, by rw [written, escapeChar, h]⟩
  | none =>
    refine Or.inr ⟨fun hmem ↦ ?_, by rw [written, escapeChar, h]⟩
    obtain ⟨e, he, rfl⟩ := List.mem_map.mp hmem
    exact bne_iff_ne.mp (List.lookup_eq_none_iff.mp h e he) rfl

theorem isOneLine_written (hc : IsBreak c → q.IsEscaped c) : IsOneLine (q.written c) := by
  intro d hd
  rcases q.written_cases c with ⟨letter, hletter, hwritten⟩ | ⟨hplain, hwritten⟩
  · rw [hwritten, List.mem_cons, List.mem_singleton] at hd
    rcases hd with rfl | rfl
    · decide
    · exact q.not_isBreak_letter (c, d) hletter
  · rw [hwritten, List.mem_singleton] at hd
    exact hd ▸ mt hc hplain

/-! ### Reading -/

theorem read_escaped (q : Quotation) (letter : Char) (t : Text) : q.read ('\\' :: letter :: t) =
    (q.meaning? letter).bind fun c ↦ (q.read t).map fun (value, rest) ↦ (c :: value, rest) := rfl

theorem read_cons (hc : c ≠ '\\') : q.read (c :: t) =
    if c = q.mark then some ([], t)
    else if IsBreak c then none
    else (q.read t).map fun (value, rest) ↦ (c :: value, rest) := by
  rw [read]
  · simp only [hc, false_or]
  · exact fun _ _ h _ ↦ hc h

/-- The first mark behind what has been read ends the quotation. -/
theorem read_mark (q : Quotation) (t : Text) : q.read (q.mark :: t) = some ([], t) := by
  rw [read_cons q.mark_ne_backslash, if_pos rfl]

/-- A character is read as it was before it was written, if no line ends with it. -/
theorem read_written_append (hc : IsBreak c → q.IsEscaped c) (t : Text) :
    q.read (q.written c ++ t) = (q.read t).map fun (value, rest) ↦ (c :: value, rest) := by
  rcases q.written_cases c with ⟨letter, hletter, hwritten⟩ | ⟨hplain, hwritten⟩
  · rw [hwritten]
    show q.read ('\\' :: letter :: t) = _
    rw [read_escaped, q.meaning?_of_mem _ hletter]
    rfl
  · rw [hwritten, List.singleton_append, read_cons (ne_backslash hplain), if_neg (ne_mark hplain),
      if_neg (mt hc hplain)]

theorem read_written_append_of_isBreak (hc : IsBreak c) (hplain : ¬q.IsEscaped c)
    (t : Text) : q.read (q.written c ++ t) = none := by
  rcases q.written_cases c with ⟨letter, hletter, -⟩ | ⟨-, hwritten⟩
  · exact absurd (List.mem_map_of_mem hletter) hplain
  · rw [hwritten, List.singleton_append, read_cons (ne_backslash hplain), if_neg (ne_mark hplain),
      if_pos hc]

theorem map_cons_eq_some_iff {found : Option (Text × Text)} :
    (found.map fun (value, rest) ↦ (c :: value, rest)) = some (c :: t, rest) ↔
      found = some (t, rest) := by
  cases found <;> simp [Prod.ext_iff]

/-- A text is read back from its quotation exactly if every line break of it is escaped. -/
theorem read_escape_append_iff : q.read (q.escape t ++ q.mark :: rest) = some (t, rest) ↔
    ∀ c ∈ t, IsBreak c → q.IsEscaped c := by
  induction t with
  | nil => simp [escape, read_mark]
  | cons c t ih =>
    rw [escape, List.flatMap_cons, List.append_assoc, List.forall_mem_cons, ← ih]
    by_cases hc : IsBreak c → q.IsEscaped c
    · rw [read_written_append hc, map_cons_eq_some_iff]
      exact (and_iff_right hc).symm
    · obtain ⟨hbreak, hplain⟩ := Classical.not_imp.mp hc
      rw [read_written_append_of_isBreak hbreak hplain]
      exact iff_of_false (fun h ↦ nomatch h) fun h ↦ hc h.1

/-! ### Marks -/

theorem backslashesAtEnd_concat (t : Text) (c : Char) :
    backslashesAtEnd (t ++ [c]) = if c = '\\' then backslashesAtEnd t + 1 else 0 := by
  rw [backslashesAtEnd, List.reverse_append, List.reverse_singleton, List.singleton_append,
    List.takeWhile_cons]
  by_cases hc : c = '\\' <;> simp [hc, backslashesAtEnd]

/-- Backslashes are written in pairs, or with a letter behind them. -/
theorem even_backslashesAtEnd_append_written (ht : Even (backslashesAtEnd t)) :
    Even (backslashesAtEnd (t ++ q.written c)) := by
  rcases q.written_cases c with ⟨letter, -, hwritten⟩ | ⟨hplain, hwritten⟩
  · have hpair : t ++ ['\\', letter] = t ++ ['\\'] ++ [letter] := by simp
    rw [hwritten, hpair, backslashesAtEnd_concat, backslashesAtEnd_concat, if_pos rfl]
    split
    · exact ht.add_one.add_one
    · exact Even.zero
  · rw [hwritten, backslashesAtEnd_concat, if_neg (ne_backslash hplain)]
    exact Even.zero

theorem even_backslashesAtEnd_escape (q : Quotation) (t : Text) :
    Even (backslashesAtEnd (q.escape t)) := by
  induction t using List.reverseRecOn with
  | nil => exact Even.zero
  | append_singleton t c ih =>
    rw [escape, List.flatMap_append, List.flatMap_singleton]
    exact even_backslashesAtEnd_append_written ih

/-- A mark is written with a backslash of its own before it. -/
theorem odd_of_written_eq {between after : Text} (ht : Even (backslashesAtEnd t))
    (h : q.written c = between ++ q.mark :: after) : Odd (backslashesAtEnd (t ++ between)) := by
  rcases q.written_cases c with ⟨letter, -, hwritten⟩ | ⟨hplain, hwritten⟩
  · rw [hwritten] at h
    match between, h with
    | [], h => exact absurd (List.cons.inj h).1.symm q.mark_ne_backslash
    | [d], h =>
      obtain rfl := (List.cons.inj h).1
      rw [backslashesAtEnd_concat, if_pos rfl]
      exact ht.add_one
    | _ :: _ :: between, h => simp at h
  · rw [hwritten] at h
    match between, h with
    | [], h => exact absurd (List.cons.inj h).1 (ne_mark hplain)
    | _ :: between, h => simp at h

/-- No mark ends a quotation early. -/
theorem isClosed_escape (q : Quotation) (t : Text) : q.IsClosed (q.escape t) where
  odd_before_mark := by
    -- Whether a mark ends the quotation depends on what stands before it: the last character first.
    induction t using List.reverseRecOn with
    | nil => exact fun before after h ↦ absurd h.symm (by simp [escape])
    | append_singleton t c ih =>
      intro before after h
      have heven := q.even_backslashesAtEnd_escape t
      rw [escape, List.flatMap_append, List.flatMap_singleton] at h
      rcases List.append_eq_append_iff.mp h with ⟨between, rfl, hwritten⟩ | ⟨later, hearlier, hrest⟩
      · exact odd_of_written_eq heven hwritten
      · cases later with
        | nil =>
          rw [List.append_nil] at hearlier
          have hodd : Odd (backslashesAtEnd (q.escape t ++ [])) :=
            odd_of_written_eq heven hrest.symm
          rwa [List.append_nil, escape, hearlier] at hodd
        | cons d later =>
          obtain ⟨rfl, -⟩ := List.cons.inj hrest
          exact ih before later hearlier
  even_at_end := q.even_backslashesAtEnd_escape t

/-- **Quotations hold any text.** Between two marks a text stands on one line, and reading it gives
it back, exactly if every line break of it is escaped. -/
theorem quotes_escape_iff : q.Quotes (q.escape t) t ↔ ∀ c ∈ t, IsBreak c → q.IsEscaped c := by
  refine ⟨fun h ↦ read_escape_append_iff.mp (h.read_append []), fun h ↦ ?_⟩
  refine ⟨q.isClosed_escape t, fun d hd ↦ ?_, fun rest ↦ read_escape_append_iff.mpr h⟩
  obtain ⟨c, hc, hd⟩ := List.mem_flatMap.mp hd
  exact isOneLine_written (h c hc) d hd

/-! ### Replacements -/

theorem escapeChar_cons (e : Char × Char) (escapes : List (Char × Char)) (c : Char) :
    escapeChar (e :: escapes) c = if c = e.1 then ['\\', e.2] else escapeChar escapes c := by
  obtain ⟨d, letter⟩ := e
  by_cases hc : c = d
  · rw [if_pos hc, escapeChar, List.lookup_cons, beq_iff_eq.mpr hc]
  · rw [if_neg hc, escapeChar, List.lookup_cons, beq_eq_false_iff_ne.mpr hc, escapeChar]

theorem escapeChar_of_ne {escapes : List (Char × Char)} (h : ∀ e ∈ escapes, e.1 ≠ c) :
    escapeChar escapes c = [c] := by
  have hlookup : escapes.lookup c = none :=
    List.lookup_eq_none_iff.mpr fun e he ↦ bne_iff_ne.mpr (h e he).symm
  rw [escapeChar, hlookup]

/-- What has been written for a character is not replaced again, so that the replacements can be
made in one pass. -/
theorem replaceEach_eq_flatMap {escapes : List (Char × Char)}
    (h : escapes.Pairwise fun e later ↦ later.1 ≠ '\\' ∧ later.1 ≠ e.2) (t : Text) :
    replaceEach escapes t = t.flatMap (escapeChar escapes) := by
  induction escapes generalizing t with
  | nil => exact (List.flatMap_singleton' t).symm
  | cons e escapes ih =>
    obtain ⟨hlater, hrest⟩ := List.pairwise_cons.mp h
    have hchar (c : Char) : (if c = e.1 then ['\\', e.2] else [c]).flatMap (escapeChar escapes) =
        escapeChar (e :: escapes) c := by
      rw [escapeChar_cons]
      split
      · rw [List.flatMap_cons, List.flatMap_singleton,
          escapeChar_of_ne fun later hmem ↦ (hlater later hmem).1,
          escapeChar_of_ne fun later hmem ↦ (hlater later hmem).2]
        rfl
      · exact List.flatMap_singleton _ _
    calc replaceEach (e :: escapes) t
        = replaceEach escapes (Text.replace [e.1] ['\\', e.2] t) := rfl
      _ = (t.flatMap fun c ↦ if c = e.1 then ['\\', e.2] else [c]).flatMap
            (escapeChar escapes) := by rw [ih hrest, Text.replace_singleton]
      _ = t.flatMap (escapeChar (e :: escapes)) := by
        rw [List.flatMap_assoc]
        exact congrArg t.flatMap (funext hchar)

theorem replaceEach_escapes (q : Quotation) (t : Text) : replaceEach q.escapes t = q.escape t :=
  replaceEach_eq_flatMap q.ordered t

end Quotation

end ApiSite
