import ApiSite.Settings
import ApiSite.Proofs.Data.Json.Strings
import ApiSite.Proofs.Running
import ApiSite.Proofs.Sorting
import Mathlib.Data.List.Nodup

/-!
# The canonical text of settings

Settings of nothing but null, truth values, whole numbers, texts, lists and mappings with texts as
keys have a canonical JSON text, and it says of two of them whether they are the same but for the
order of keys, at whatever depth (`canonicalText_eq_iff`).

In one direction, sorting by keys makes one list of entries of all that have the same
(`IsReordered.canonicalText_eq`). In the other, the text tells what it stands for and where it ends,
whatever follows it (`tellsApart_canonicalText`). That is an induction on the value: the first
character of the text says which kind of value it is, and items are told apart one after the other
(`join_append_inj`).
-/

set_option autoImplicit false

namespace ApiSite.Json

open Settings (section_)

variable {α : Type} {v w : Value} {l l' : List Value} {m m' : List (Text × Value)} {r r' : Text}
  {closing : Char}

/-! ### Values with a canonical text -/

/-- Values of nothing but null, truth values, whole numbers, texts, lists, and mappings whose keys
are texts, no two of them the same. -/
inductive IsPlain : Value → Prop
  | null : IsPlain .null
  | bool (b : Bool) : IsPlain (.bool b)
  | int (i : Int) : IsPlain (.int i)
  | text (t : Text) : IsPlain (.text t)
  | list {l : List Value} (items : ∀ v ∈ l, IsPlain v) : IsPlain (.list l)
  | mapping {m : List (Text × Value)} (keys : (m.map Prod.fst).Nodup)
    (values : ∀ e ∈ m, IsPlain e.2) : IsPlain (section_ m)

/-- Two values are the same but for the order of keys: lists with items that are, one by one, and
mappings with the same keys and values under them that are. -/
inductive IsReordered : Value → Value → Prop
  | null : IsReordered .null .null
  | bool (b : Bool) : IsReordered (.bool b) (.bool b)
  | int (i : Int) : IsReordered (.int i) (.int i)
  | text (t : Text) : IsReordered (.text t) (.text t)
  | list {l l' : List Value} (length : l.length = l'.length)
    (items : ∀ p ∈ l.zip l', IsReordered p.1 p.2) : IsReordered (.list l) (.list l')
  | mapping {m m' : List (Text × Value)}
    (keys : ∀ k, k ∈ m.map Prod.fst ↔ k ∈ m'.map Prod.fst)
    (values : ∀ k v v', (k, v) ∈ m → (k, v') ∈ m' → IsReordered v v') :
    IsReordered (section_ m) (section_ m')

/-- The canonical text of a value that has one. -/
def canonicalText (v : Value) : Text := (canonical? v).getD []

/-- An entry of an object. -/
def entryText (e : Text × Value) : Text := stringText e.1 ++ (": " ++ canonicalText e.2)

/-- Entries in the order of their keys. -/
abbrev sortEntries (m : List (Text × Value)) : List (Text × Value) := Text.sortBy Prod.fst m

theorem writeAll?_eq_some (hl : ∀ v ∈ l, canonical? v = some (canonicalText v)) :
    writeAll? true l = some (l.map canonicalText) := by
  induction l with
  | nil => rfl
  | cons v l ih =>
    obtain ⟨hv, hl⟩ := List.forall_mem_cons.mp hl
    rw [writeAll?, ← canonical?, hv, ih hl]
    rfl

theorem writeEntries?_eq_some (hm : ∀ e ∈ m, canonical? e.2 = some (canonicalText e.2)) :
    writeEntries? true (m.map fun e ↦ (.text e.1, e.2)) =
      some (m.map fun e ↦ (.text e.1, canonicalText e.2)) := by
  induction m with
  | nil => rfl
  | cons e m ih =>
    obtain ⟨he, hm⟩ := List.forall_mem_cons.mp hm
    rw [List.map_cons, writeEntries?, ← canonical?, he, ih hm]
    rfl

theorem canSort_texts (f : Text × Value → Text) (m : List (Text × Value)) :
    canSort (m.map fun e ↦ (.text e.1, f e)) = true := by
  induction m with
  | nil => rfl
  | cons e m ih =>
    cases m with
    | nil => rfl
    | cons e' m => exact ih

theorem arrange?_texts (f : Text × Value → Text) (m : List (Text × Value)) :
    arrange? true (m.map fun e ↦ (.text e.1, f e)) =
      some ((sortEntries m).map fun e ↦ (.text e.1, f e)) := by
  have hmap : (sortEntries m).map (fun e ↦ (Value.text e.1, f e)) =
      (m.map fun e ↦ (Value.text e.1, f e)).mergeSort fun a b ↦ keyLe a.1 b.1 :=
    List.map_mergeSort fun _ _ _ _ ↦ rfl
  rw [arrange?, canSort_texts, hmap]
  rfl

theorem entryText?_text (k t : Text) :
    entryText? (.text k, t) = some (stringText k ++ (": " ++ t)) :=
  congrArg some (List.append_assoc _ _ _)

theorem mapM_entryText? (m : List (Text × Value)) :
    (m.map fun e ↦ (Value.text e.1, canonicalText e.2)).mapM entryText? =
      some (m.map entryText) := by
  induction m with
  | nil => rfl
  | cons e m ih =>
    simp only [List.map_cons, List.mapM_cons, entryText?_text, ih]
    rfl

theorem canonical?_list (hl : ∀ v ∈ l, canonical? v = some (canonicalText v)) :
    canonical? (.list l) = some ('[' :: (Text.join ", " (l.map canonicalText) ++ [']'])) := by
  rw [canonical?, write?, writeAll?_eq_some hl]
  rfl

theorem canonical?_section (hm : ∀ e ∈ m, canonical? e.2 = some (canonicalText e.2)) :
    canonical? (section_ m) =
      some ('\x7b' :: (Text.join ", " ((sortEntries m).map entryText) ++ ['\x7d'])) := by
  rw [canonical?, section_, write?, writeEntries?_eq_some hm]
  simp only
  rw [arrange?_texts, Option.bind_some, mapM_entryText?]
  rfl

/-- Such values have a canonical text. -/
theorem IsPlain.canonical?_eq (hv : IsPlain v) : canonical? v = some (canonicalText v) := by
  induction hv with
  | null | bool | int | text => rfl
  | list _ ih => rw [canonicalText, canonical?_list ih, Option.getD_some]
  | mapping _ _ ih => rw [canonicalText, canonical?_section ih, Option.getD_some]

theorem canonicalText_list (hl : ∀ v ∈ l, IsPlain v) :
    canonicalText (.list l) = '[' :: (Text.join ", " (l.map canonicalText) ++ [']']) := by
  rw [canonicalText, canonical?_list fun v hv ↦ (hl v hv).canonical?_eq, Option.getD_some]

theorem canonicalText_section (hm : ∀ e ∈ m, IsPlain e.2) :
    canonicalText (section_ m) =
      '\x7b' :: (Text.join ", " ((sortEntries m).map entryText) ++ ['\x7d']) := by
  rw [canonicalText, canonical?_section fun e he ↦ (hm e he).canonical?_eq, Option.getD_some]

/-! ### The order of keys does not show -/

theorem section_injective : Function.Injective section_ := by
  intro m m' h
  have hpair : Function.Injective fun e : Text × Value ↦ (Value.text e.1, e.2) := by
    rintro ⟨k, v⟩ ⟨k', v'⟩ ⟨⟩
    rfl
  exact List.map_injective_iff.mpr hpair (Value.mapping.inj h)

theorem IsPlain.items (h : IsPlain (.list l)) : ∀ v ∈ l, IsPlain v := by
  cases h with
  | list items => exact items

theorem IsPlain.entries (h : IsPlain (section_ m)) :
    (m.map Prod.fst).Nodup ∧ ∀ e ∈ m, IsPlain e.2 := by
  generalize hv : section_ m = v at h
  cases h with
  | mapping keys values =>
    obtain rfl := section_injective hv
    exact ⟨keys, values⟩
  | null | bool | int | text | list => cases hv

theorem sortEntries_perm (m : List (Text × Value)) : (sortEntries m).Perm m :=
  List.mergeSort_perm m _

theorem pairwise_keys_sortEntries (m : List (Text × Value)) :
    ((sortEntries m).map Prod.fst).Pairwise (· ≤ ·) :=
  List.pairwise_map.mpr (Text.pairwise_sortBy Prod.fst m)

/-- Sorted, mappings with the same keys have them one after the other. -/
theorem keys_sortEntries_eq (hm : (m.map Prod.fst).Nodup) (hm' : (m'.map Prod.fst).Nodup)
    (hkeys : ∀ k, k ∈ m.map Prod.fst ↔ k ∈ m'.map Prod.fst) :
    (sortEntries m).map Prod.fst = (sortEntries m').map Prod.fst := by
  have hperm := (List.perm_ext_iff_of_nodup hm hm').mpr hkeys
  have hsorted : ((sortEntries m).map Prod.fst).Perm ((sortEntries m').map Prod.fst) :=
    ((sortEntries_perm m).map Prod.fst).trans
      (hperm.trans ((sortEntries_perm m').map Prod.fst).symm)
  exact hsorted.eq_of_pairwise (fun _ _ _ _ hle hge ↦ le_antisymm hle hge)
    (pairwise_keys_sortEntries m) (pairwise_keys_sortEntries m')

theorem map_eq_map_iff_forall₂ {l l' : List α} {f : α → Text} :
    l.map f = l'.map f ↔ List.Forall₂ (fun a b ↦ f a = f b) l l' := by
  rw [← List.forall₂_eq_eq_eq, List.forall₂_map_left_iff, List.forall₂_map_right_iff]

/-- Entries with the same keys one by one have the same texts if those of one key have. -/
theorem map_eq_map_of_keys {f : Text × Value → Text} (hkeys : m.map Prod.fst = m'.map Prod.fst)
    (hf : ∀ e ∈ m, ∀ e' ∈ m', e.1 = e'.1 → f e = f e') : m.map f = m'.map f := by
  rw [map_eq_map_iff_forall₂, List.forall₂_iff_zip] at hkeys ⊢
  refine ⟨hkeys.1, fun {e e'} hmem ↦ ?_⟩
  obtain ⟨he, he'⟩ := List.of_mem_zip hmem
  exact hf e he e' he' (hkeys.2 hmem)

/-- Values that are the same but for the order of keys have the same canonical text. -/
theorem IsReordered.canonicalText_eq (h : IsReordered v w) (hv : IsPlain v) (hw : IsPlain w) :
    canonicalText v = canonicalText w := by
  induction h with
  | null | bool | int | text => rfl
  | @list l l' length _ ih =>
    have hitems : l.map canonicalText = l'.map canonicalText := by
      refine map_eq_map_iff_forall₂.mpr (List.forall₂_iff_zip.mpr ⟨length, fun {a b} hab ↦ ?_⟩)
      obtain ⟨ha, hb⟩ := List.of_mem_zip hab
      exact ih (a, b) hab (hv.items a ha) (hw.items b hb)
    rw [canonicalText_list hv.items, canonicalText_list hw.items, hitems]
  | @mapping m m' keys _ ih =>
    obtain ⟨hm, hvalues⟩ := hv.entries
    obtain ⟨hm', hvalues'⟩ := hw.entries
    have hentries : (sortEntries m).map entryText = (sortEntries m').map entryText := by
      refine map_eq_map_of_keys (keys_sortEntries_eq hm hm' keys) ?_
      rintro ⟨k, a⟩ ha ⟨k', b⟩ hb rfl
      replace ha := (sortEntries_perm m).mem_iff.mp ha
      replace hb := (sortEntries_perm m').mem_iff.mp hb
      rw [entryText, entryText, ih k a b ha hb (hvalues _ ha) (hvalues' _ hb)]
    rw [canonicalText_section hvalues, canonicalText_section hvalues', hentries]

/-! ### The text tells the value -/

/-- The character that the canonical text of a value begins with, one of each kind. -/
def initial : Value → Char
  | .null => 'n'
  | .bool _ => 't'
  | .int _ => '0'
  | .list _ => '['
  | .mapping _ => '\x7b'
  | _ => '"'

/-- The character that stands for those that begin the same kind of value. -/
def kindOf (c : Char) : Char :=
  if c = 'f' then 't' else if c = '-' ∨ c.isDigit then '0' else c

theorem kindOf_of_isDigit {c : Char} (hc : c.isDigit = true) : kindOf c = '0' := by
  have hne : c ≠ 'f' := by
    rintro rfl
    exact absurd hc (by decide)
  rw [kindOf, if_neg hne, if_pos (.inr hc)]

theorem IsPlain.kindOf_head? (hv : IsPlain v) (r : Text) :
    (canonicalText v ++ r).head?.map kindOf = some (initial v) := by
  cases hv with
  | null | text => rfl
  | bool b => cases b <;> rfl
  | int i =>
    cases i with
    | ofNat n =>
      obtain ⟨c, t, hct, hdigit⟩ := exists_ofNat_eq_cons n
      have htext : canonicalText (.int (.ofNat n)) = c :: t := hct
      rw [htext]
      exact congrArg some (kindOf_of_isDigit hdigit)
    | negSucc n => rfl
  | list items => rw [canonicalText_list items]; rfl
  | mapping _ values => rw [canonicalText_section values]; rfl

/-- Values with texts that begin alike are of one kind. -/
theorem initial_eq (hv : IsPlain v) (hw : IsPlain w)
    (h : canonicalText v ++ r = canonicalText w ++ r') : initial v = initial w := by
  have hkind := hv.kindOf_head? r
  rw [h, hw.kindOf_head? r'] at hkind
  exact (Option.some_inj.mp hkind).symm

theorem IsPlain.append_ne (hv : IsPlain v) (r r' : Text) : canonicalText v ++ r ≠ ']' :: r' := by
  intro h
  have hkind := hv.kindOf_head? r
  rw [h] at hkind
  cases hv <;> simp [kindOf, initial, section_] at hkind

/-- Two items with one text, whatever follows it as long as that does not go on with a number, are
related, and the same follows both. -/
def TellsApart (R : α → α → Prop) (f : α → Text) (a b : α) : Prop :=
  ∀ r r', EndsNumber r → EndsNumber r' → f a ++ r = f b ++ r' → R a b ∧ r = r'

section Items

variable {R : α → α → Prop} {f : α → Text} {l l' : List α}

/-- The items behind the first one, each behind a comma. -/
def laterItems (f : α → Text) (l : List α) : Text := l.flatMap fun a ↦ ", " ++ f a

theorem join_map_cons (f : α → Text) (a : α) (l : List α) :
    Text.join ", " ((a :: l).map f) = f a ++ laterItems f l := by
  rw [List.map_cons, Text.join_cons, List.flatMap_map]
  rfl

theorem laterItems_cons_append (f : α → Text) (a : α) (l : List α) (r : Text) :
    laterItems f (a :: l) ++ r = ", " ++ (f a ++ (laterItems f l ++ r)) := by
  simp only [laterItems, List.flatMap_cons, List.append_assoc]

/-- What follows an item is a comma or the closing bracket. -/
theorem endsNumber_laterItems (hclosing : closing.isDigit = false) (f : α → Text) (l : List α)
    (r : Text) : EndsNumber (laterItems f l ++ closing :: r) := by
  intro c hc
  cases l <;> cases hc
  · exact hclosing
  · rfl

/-- Items behind the first one are told apart where each of them tells what it is and where it
ends. -/
theorem laterItems_append_inj (hcomma : closing ≠ ',') (hclosing : closing.isDigit = false)
    (hf : ∀ a ∈ l, ∀ b ∈ l', TellsApart R f a b)
    (h : laterItems f l ++ closing :: r = laterItems f l' ++ closing :: r') :
    List.Forall₂ R l l' ∧ r = r' := by
  induction l generalizing l' with
  | nil =>
    cases l' with
    | nil => exact ⟨.nil, (List.cons.inj h).2⟩
    | cons b l' => exact absurd (List.cons.inj h).1 hcomma
  | cons a l ih =>
    cases l' with
    | nil => exact absurd (List.cons.inj h).1.symm hcomma
    | cons b l' =>
      rw [laterItems_cons_append, laterItems_cons_append] at h
      obtain ⟨hab, hrest⟩ := hf a List.mem_cons_self b List.mem_cons_self _ _
        (endsNumber_laterItems hclosing f l r) (endsNumber_laterItems hclosing f l' r')
        (List.append_cancel_left h)
      obtain ⟨hall, hr⟩ := ih (fun a ha b hb ↦ hf a (List.mem_cons_of_mem _ ha) b
        (List.mem_cons_of_mem _ hb)) hrest
      exact ⟨.cons hab hall, hr⟩

/-- Items between brackets are told apart where also none of them begins with the closing one. -/
theorem join_append_inj (hcomma : closing ≠ ',') (hclosing : closing.isDigit = false)
    (hne : ∀ a ∈ l ++ l', ∀ r r', f a ++ r ≠ closing :: r')
    (hf : ∀ a ∈ l, ∀ b ∈ l', TellsApart R f a b)
    (h : Text.join ", " (l.map f) ++ closing :: r = Text.join ", " (l'.map f) ++ closing :: r') :
    List.Forall₂ R l l' ∧ r = r' := by
  cases l with
  | nil =>
    cases l' with
    | nil => exact ⟨.nil, (List.cons.inj h).2⟩
    | cons b l' =>
      rw [join_map_cons, List.append_assoc] at h
      exact absurd h.symm (hne b List.mem_cons_self _ _)
  | cons a l =>
    rw [join_map_cons, List.append_assoc] at h
    cases l' with
    | nil => exact absurd h (hne a List.mem_cons_self _ _)
    | cons b l' =>
      -- both begin with an item, and the rest of both follows a comma
      rw [join_map_cons, List.append_assoc] at h
      obtain ⟨hab, hrest⟩ := hf a List.mem_cons_self b List.mem_cons_self _ _
        (endsNumber_laterItems hclosing f l r) (endsNumber_laterItems hclosing f l' r') h
      obtain ⟨hall, hr⟩ := laterItems_append_inj hcomma hclosing (fun a ha b hb ↦
        hf a (List.mem_cons_of_mem _ ha) b (List.mem_cons_of_mem _ hb)) hrest
      exact ⟨.cons hab hall, hr⟩

end Items

/-- Mappings are the same but for the order of keys if their sorted entries are, one by one. -/
theorem isReordered_of_forall₂ (hm : (m.map Prod.fst).Nodup)
    (h : List.Forall₂ (fun e e' ↦ e.1 = e'.1 ∧ IsReordered e.2 e'.2) (sortEntries m)
      (sortEntries m')) : IsReordered (section_ m) (section_ m') := by
  have hkeys : (sortEntries m).map Prod.fst = (sortEntries m').map Prod.fst :=
    map_eq_map_iff_forall₂.mpr (h.imp fun _ _ hsame ↦ hsame.1)
  refine .mapping (fun k ↦ ?_) fun k v v' hkv hkv' ↦ ?_
  · rw [← ((sortEntries_perm m).map Prod.fst).mem_iff, hkeys,
      ((sortEntries_perm m').map Prod.fst).mem_iff]
  · obtain ⟨e, he, hkey, hvalues⟩ := h.exists_left ((sortEntries_perm m').mem_iff.mpr hkv')
    have hentry : e = (k, v) := List.inj_on_of_nodup_map hm
      ((sortEntries_perm m).mem_iff.mp he) hkv hkey
    rwa [hentry] at hvalues

/-- Entries are told apart where their values are. -/
theorem tellsApart_entryText {e e' : Text × Value}
    (h : TellsApart IsReordered canonicalText e.2 e'.2) :
    TellsApart (fun e e' ↦ e.1 = e'.1 ∧ IsReordered e.2 e'.2) entryText e e' := by
  intro r r' hr hr' hentry
  simp only [entryText, List.append_assoc] at hentry
  obtain ⟨hkey, hvalue⟩ := stringText_append_inj hentry
  obtain ⟨hsame, hrest⟩ := h r r' hr hr' (List.append_cancel_left hvalue)
  exact ⟨⟨hkey, hsame⟩, hrest⟩

/-- A canonical text tells its value but for the order of keys, and where it ends. -/
theorem tellsApart_canonicalText (hv : IsPlain v) (hw : IsPlain w) :
    TellsApart IsReordered canonicalText v w := by
  intro r r' hr hr' h
  have hinitial := initial_eq hv hw h
  induction hv generalizing w r r' with
  | null =>
    cases hw with
    | null => exact ⟨.null, List.append_cancel_left h⟩
    | _ => simp [initial, section_] at hinitial
  | bool b =>
    cases hw with
    | bool b' =>
      cases b <;> cases b'
      · exact ⟨.bool false, List.append_cancel_left h⟩
      · exact absurd (List.cons.inj h).1 (by decide)
      · exact absurd (List.cons.inj h).1 (by decide)
      · exact ⟨.bool true, List.append_cancel_left h⟩
    | _ => simp [initial, section_] at hinitial
  | int i =>
    cases hw with
    | int j =>
      obtain ⟨rfl, hrest⟩ := ofInt_append_inj hr hr' h
      exact ⟨.int i, hrest⟩
    | _ => simp [initial, section_] at hinitial
  | text t =>
    cases hw with
    | text u =>
      obtain ⟨rfl, hrest⟩ := stringText_append_inj h
      exact ⟨.text t, hrest⟩
    | _ => simp [initial, section_] at hinitial
  | @list l hl ih =>
    cases hw with
    | @list l' hl' =>
      have hitems : ∀ a ∈ l, ∀ b ∈ l', TellsApart IsReordered canonicalText a b :=
        fun a ha b hb r r' hr hr' hab ↦
          ih a ha (hl' b hb) r r' hr hr' hab (initial_eq (hl a ha) (hl' b hb) hab)
      have hne : ∀ a ∈ l ++ l', ∀ r r', canonicalText a ++ r ≠ ']' :: r' := fun a ha ↦
        ((List.mem_append.mp ha).elim (hl a) (hl' a)).append_ne
      simp only [canonicalText_list hl, canonicalText_list hl', List.cons_append, List.append_assoc,
        List.cons.injEq, true_and, List.nil_append] at h
      obtain ⟨hall, hrest⟩ := join_append_inj (by decide) (by decide) hne hitems h
      obtain ⟨hlength, hsame⟩ := List.forall₂_iff_zip.mp hall
      exact ⟨.list hlength fun p hp ↦ hsame hp, hrest⟩
    | _ => simp [initial, section_] at hinitial
  | @mapping m hm hvalues ih =>
    cases hw with
    | @mapping m' hm' hvalues' =>
      have hentries : ∀ e ∈ sortEntries m, ∀ e' ∈ sortEntries m',
          TellsApart (fun e e' ↦ e.1 = e'.1 ∧ IsReordered e.2 e'.2) entryText e e' := by
        intro e he e' he'
        replace he := (sortEntries_perm m).mem_iff.mp he
        replace he' := hvalues' e' ((sortEntries_perm m').mem_iff.mp he')
        exact tellsApart_entryText fun r r' hr hr' hvalue ↦
          ih e he he' r r' hr hr' hvalue (initial_eq (hvalues e he) he' hvalue)
      have hne : ∀ e ∈ sortEntries m ++ sortEntries m', ∀ r r',
          entryText e ++ r ≠ '\x7d' :: r' := by
        rintro e - r r' ⟨⟩
      simp only [canonicalText_section hvalues, canonicalText_section hvalues', List.cons_append,
        List.append_assoc, List.cons.injEq, true_and, List.nil_append] at h
      exact (join_append_inj (by decide) (by decide) hne hentries h).imp_left
        (isReordered_of_forall₂ hm)
    | _ => simp [initial, section_] at hinitial

theorem endsNumber_nil : EndsNumber [] := by
  intro c hc
  cases hc

/-- **Canonical texts are the same exactly for values that are the same but for the order of
keys.** -/
theorem canonicalText_eq_iff (hv : IsPlain v) (hw : IsPlain w) :
    canonicalText v = canonicalText w ↔ IsReordered v w := by
  refine ⟨fun h ↦ ?_, fun h ↦ h.canonicalText_eq hv hw⟩
  exact (tellsApart_canonicalText hv hw [] [] endsNumber_nil endsNumber_nil
    (congrArg (· ++ []) h)).1

end ApiSite.Json
