import ApiSite.Data.Json
import ApiSite.Proofs.Text

/-!
# JSON texts that can be told apart: numbers and strings

What is written for a number or for a string tells where it ends and what it stands for, whatever
follows it (`ofInt_append_inj`, `stringText_append_inj`); a number only needs to be followed by
something other than a digit.

For strings this rests on reading one character back (`readChar?_charText`). A character beyond the
basic plane is written as two escapes, the first of them with a number that no character has, so
that it is not taken for a character of its own.
-/

set_option autoImplicit false

namespace ApiSite.Json

variable {c : Char} {t u r r' : Text} {m n : Nat} {i j : Int}

/-! ### Hexadecimal digits -/

theorem hexNumber_append_singleton (t : Text) (c : Char) :
    CharSet.hexNumber (t ++ [c]) = 16 * CharSet.hexNumber t + CharSet.hexValue c := by
  rw [CharSet.hexNumber, List.foldl_append]
  rfl

theorem hexValue_digitChar (hn : n < 16) : CharSet.hexValue n.digitChar = n := by
  have hall : ∀ n < 16, CharSet.hexValue n.digitChar = n := by decide
  exact hall n hn

/-- The hexadecimal digits of a number are read as this number. -/
theorem hexNumber_toDigits (n : Nat) : CharSet.hexNumber (Nat.toDigits 16 n) = n := by
  induction n using Nat.strong_induction_on with
  | _ n ih =>
    by_cases hn : n < 16
    · rw [Nat.toDigits_of_lt_base hn]
      simpa [CharSet.hexNumber] using hexValue_digitChar hn
    · have hlt : n % 16 < 16 := Nat.mod_lt n (by decide)
      rw [Nat.toDigits_of_base_le (by decide) (by omega), hexNumber_append_singleton,
        ih (n / 16) (by omega), hexValue_digitChar hlt]
      omega

theorem hexNumber_replicate_append (k : Nat) (t : Text) :
    CharSet.hexNumber (List.replicate k '0' ++ t) = CharSet.hexNumber t := by
  induction k with
  | zero => rfl
  | succ k ih => exact ih

theorem hexNumber_hex (width n : Nat) : CharSet.hexNumber (Text.hex width n) = n := by
  rw [Text.hex, hexNumber_replicate_append, hexNumber_toDigits]

theorem length_hex_four (hn : n < 0x10000) : (Text.hex 4 n).length = 4 := by
  have hlength : (Nat.toDigits 16 n).length ≤ 4 :=
    (Nat.length_toDigits_le_iff (by decide) (by decide)).mpr hn
  rw [Text.hex, List.length_append, List.length_replicate]
  omega

/-! ### Characters -/

/-- The characters that are written with a letter or a mark behind a backslash. -/
def escapes : List (Char × Char) :=
  [('"', '"'), ('\\', '\\'), ('n', '\n'), ('r', '\r'), ('t', '\t'), ('b', '\x08'), ('f', '\x0c')]

/-- Reads a number of sixteen bits behind a backslash. -/
def readUnit? : Text → Option (Nat × Text)
  | '\\' :: 'u' :: rest => some (CharSet.hexNumber (rest.take 4), rest.drop 4)
  | _ => none

/-- Reads a character that is written as itself, or with a letter or a mark behind a backslash. -/
def readPlain? : Text → Option (Char × Text)
  | '\\' :: letter :: rest => (escapes.lookup letter).map fun c => (c, rest)
  | c :: rest => some (c, rest)
  | [] => none

/-- Reads a character of a string, together with what follows it. -/
def readChar? (t : Text) : Option (Char × Text) :=
  match readUnit? t with
  | some (unit, rest) =>
    if 0xd800 ≤ unit ∧ unit < 0xdc00 then
      (readUnit? rest).map fun (low, rest) =>
        (Char.ofNat (0x10000 + (unit - 0xd800) * 0x400 + (low - 0xdc00)), rest)
    else some (Char.ofNat unit, rest)
  | none => readPlain? t

theorem readUnit?_unitEscape (hn : n < 0x10000) (r : Text) :
    readUnit? (unitEscape n ++ r) = some (n, r) := by
  have hlength := length_hex_four hn
  rw [unitEscape, List.cons_append, List.cons_append, readUnit?, List.take_left' hlength,
    List.drop_left' hlength, hexNumber_hex]

theorem readUnit?_cons (hc : c ≠ '\\') (r : Text) : readUnit? (c :: r) = none := by
  rw [readUnit?]
  rintro rest ⟨⟩
  exact hc rfl

/-- No character has the number of the first half of a pair. -/
theorem toNat_not_half (c : Char) : ¬(0xd800 ≤ c.toNat ∧ c.toNat < 0xdc00) := by
  have hvalid : c.toNat.isValidChar := c.valid
  rw [Nat.isValidChar] at hvalid
  omega

theorem readChar?_unitEscape (hc : c.toNat < 0x10000) (r : Text) :
    readChar? (unitEscape c.toNat ++ r) = some (c, r) := by
  rw [readChar?, readUnit?_unitEscape hc]
  simp only [if_neg (toNat_not_half c), Char.ofNat_toNat]

/-- Two halves of a pair are read as one character. -/
theorem readChar?_pair (hc : 0x10000 ≤ c.toNat) (r : Text) :
    readChar? (unitEscape (0xd800 + (c.toNat - 0x10000) / 0x400) ++
      unitEscape (0xdc00 + (c.toNat - 0x10000) % 0x400) ++ r) = some (c, r) := by
  have hvalid : c.toNat.isValidChar := c.valid
  rw [Nat.isValidChar] at hvalid
  have hnumber : 0x10000 + (0xd800 + (c.toNat - 0x10000) / 0x400 - 0xd800) * 0x400 +
      (0xdc00 + (c.toNat - 0x10000) % 0x400 - 0xdc00) = c.toNat := by omega
  rw [List.append_assoc, readChar?, readUnit?_unitEscape (by omega)]
  simp only
  rw [if_pos (by omega), readUnit?_unitEscape (by omega), Option.map_some, hnumber,
    Char.ofNat_toNat]

/-- A character that stands for itself is read as itself. -/
theorem readChar?_cons (hc : c ≠ '\\') (r : Text) : readChar? (c :: r) = some (c, r) := by
  rw [readChar?, readUnit?_cons hc, readPlain?]
  exact fun letter rest hback ↦ absurd hback hc

/-- What is written for a character is read as this character. -/
theorem readChar?_charText (c : Char) (r : Text) : readChar? (charText c ++ r) = some (c, r) := by
  rw [charText]
  split_ifs with hmark hfeed hreturn htab hback hform hcontrol hascii hplane
  · rcases hmark with rfl | rfl <;> rfl
  · rw [hfeed]; rfl
  · rw [hreturn]; rfl
  · rw [htab]; rfl
  · obtain rfl : c = '\x08' := Char.toNat_inj.mp hback
    rfl
  · obtain rfl : c = '\x0c' := Char.toNat_inj.mp hform
    rfl
  · exact readChar?_unitEscape (by omega) r
  · exact readChar?_cons (fun heq ↦ hmark (.inr heq)) r
  · exact readChar?_unitEscape hplane r
  · exact readChar?_pair (by omega) r

theorem charText_append_inj {d : Char} (h : charText c ++ r = charText d ++ r') :
    c = d ∧ r = r' := by
  have hread := readChar?_charText c r
  rw [h, readChar?_charText, Option.some_inj, Prod.mk.injEq] at hread
  exact ⟨hread.1.symm, hread.2.symm⟩

/-! ### Strings -/

/-- No character is written with a quotation mark in front. -/
theorem charText_append_ne (c : Char) (r : Text) : charText c ++ r ≠ '"' :: r' := by
  intro h
  have hread := readChar?_charText c r
  rw [h, readChar?_cons (by decide), Option.some_inj, Prod.mk.injEq] at hread
  rw [← hread.1, hread.2] at h
  have hfirst : '\\' = '"' := (List.cons.inj h).1
  exact absurd hfirst (by decide)

theorem flatMap_charText_append_inj
    (h : t.flatMap charText ++ '"' :: r = u.flatMap charText ++ '"' :: r') : t = u ∧ r = r' := by
  induction t generalizing u with
  | nil =>
    cases u with
    | nil => exact ⟨rfl, (List.cons.inj h).2⟩
    | cons d u =>
      rw [List.flatMap_cons, List.append_assoc] at h
      exact absurd h.symm (charText_append_ne d _)
  | cons c t ih =>
    rw [List.flatMap_cons, List.append_assoc] at h
    cases u with
    | nil => exact absurd h (charText_append_ne c _)
    | cons d u =>
      rw [List.flatMap_cons, List.append_assoc] at h
      obtain ⟨rfl, hrest⟩ := charText_append_inj h
      obtain ⟨rfl, hr⟩ := ih hrest
      exact ⟨rfl, hr⟩

/-- A string tells what it stands for, and where it ends. -/
theorem stringText_append_inj (h : stringText t ++ r = stringText u ++ r') : t = u ∧ r = r' := by
  simp only [stringText, List.cons_append, List.append_assoc, List.cons.injEq, true_and,
    List.nil_append] at h
  exact flatMap_charText_append_inj h

/-! ### Numbers -/

/-- What can follow a number: nothing, or something that begins with no digit. -/
def EndsNumber (r : Text) : Prop := ∀ c ∈ r.head?, c.isDigit = false

theorem ofNat_append_inj (hr : EndsNumber r) (hr' : EndsNumber r')
    (h : Text.ofNat m ++ r = Text.ofNat n ++ r') : m = n ∧ r = r' := by
  have hdigits (k : Nat) {s : Text} (hs : EndsNumber s) :
      (Text.ofNat k ++ s).takeWhile Char.isDigit = Text.ofNat k :=
    Text.takeWhile_append_of_head? (fun _ hc ↦ Text.isDigit_of_mem_ofNat hc) hs
  have hsame : Text.ofNat m = Text.ofNat n := by rw [← hdigits m hr, h, hdigits n hr']
  rw [hsame] at h
  exact ⟨Text.ofNat_injective hsame, List.append_cancel_left h⟩

/-- A natural number is written with a digit in front. -/
theorem exists_ofNat_eq_cons (n : Nat) : ∃ c t, Text.ofNat n = c :: t ∧ c.isDigit = true := by
  obtain ⟨c, t, hct⟩ := List.exists_cons_of_ne_nil (Text.ofNat_ne_nil (n := n))
  exact ⟨c, t, hct, Text.isDigit_of_mem_ofNat (hct ▸ List.mem_cons_self)⟩

theorem ofNat_append_ne (n : Nat) (r : Text) : Text.ofNat n ++ r ≠ '-' :: r' := by
  obtain ⟨c, t, hct, hdigit⟩ := exists_ofNat_eq_cons n
  rw [hct]
  rintro ⟨⟩
  exact absurd hdigit (by decide)

/-- A whole number tells what it stands for, and where it ends if no digit follows. -/
theorem ofInt_append_inj (hr : EndsNumber r) (hr' : EndsNumber r')
    (h : Text.ofInt i ++ r = Text.ofInt j ++ r') : i = j ∧ r = r' := by
  cases i with
  | ofNat m =>
    cases j with
    | ofNat n => exact (ofNat_append_inj hr hr' h).imp_left (congrArg Int.ofNat)
    | negSucc n => exact absurd h (ofNat_append_ne m r)
  | negSucc m =>
    cases j with
    | ofNat n => exact absurd h.symm (ofNat_append_ne n r')
    | negSucc n =>
      refine (ofNat_append_inj hr hr' (List.cons.inj h).2).imp_left fun hsucc ↦ ?_
      exact congrArg Int.negSucc (Nat.succ.inj hsucc)

end ApiSite.Json
