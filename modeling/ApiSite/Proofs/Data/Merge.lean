import ApiSite.Settings
import ApiSite.Proofs.Sorting
import Mathlib.Tactic.Ring

/-!
# What merging comes to, path by path

Keys lead from a mapping to a value, one mapping after the other (`at?`). When a mapping is laid
over another one, the value at a path is what the two values there make of each other, and it
depends on nothing else in the two (`at?_overlay`): where the upper mapping has nothing, the lower
one shows through, unless something that is no mapping has been laid over a part of the path.

The step is that of one key (`find?_overlayAll`), and needs the keys of what is laid over to be
different from each other; the induction is on the path.

Two values are one key if they are numbers of one value, or the same value otherwise. That is
symmetric and transitive (`sameKey_comm`, `sameKey_trans`), and all that looking up needs: for two
values that are one key it finds the same (`find?_congr`), and what has been assigned to a key is
found under it and changes nothing under the others (`find?_assign`). Some values are no key at all,
not even the same as themselves.
-/

set_option autoImplicit false

namespace ApiSite.Value

variable {a b c k q v w : Value} {m below above : List (Value × Value)} {path : List Value}

/-! ### One key -/

/-- The denominator of a number is positive. -/
theorem den_pos {n : Int} {d : Nat} (h : number? a = some (n, d)) : 0 < d := by
  cases a with
  | bool => cases h; exact Nat.one_pos
  | int => cases h; exact Nat.one_pos
  | real r =>
    cases r with
    | finite negative mantissa exponent =>
      rw [number?, Binary64.ratio?] at h
      cases hexp : -exponent <;> rw [hexp, Binary64.shiftDown] at h <;> cases h
      · exact Nat.mul_pos Nat.one_pos (Nat.pow_pos Nat.two_pos)
      · exact Nat.one_pos
    | infinite => cases h
    | nan => cases h
  | null | text | date | moment | list | mapping => cases h

/-- Values are one key as numbers of one value, or as the same value otherwise. -/
theorem sameKey_iff : sameKey a b = true ↔
    (∃ m c n d, number? a = some (m, c) ∧ number? b = some (n, d) ∧ m * (d : Int) = n * c) ∨
      number? a = none ∧ a = b ∧ sameKey b b = true := by
  constructor
  · intro h
    fun_cases sameKey a b <;> simp_all [sameKey]
  · rintro (⟨m, c, n, d, ha, hb, heq⟩ | ⟨-, rfl, h⟩)
    · simp only [sameKey, ha, hb, heq, beq_self_eq_true]
    · exact h

theorem sameKey_symm (h : sameKey a b = true) : sameKey b a = true := by
  rcases sameKey_iff.mp h with ⟨m, c, n, d, ha, hb, heq⟩ | ⟨-, rfl, h⟩
  · exact sameKey_iff.mpr (.inl ⟨n, d, m, c, hb, ha, heq.symm⟩)
  · exact h

theorem sameKey_comm (a b : Value) : sameKey a b = sameKey b a :=
  Bool.eq_iff_iff.mpr ⟨sameKey_symm, sameKey_symm⟩

theorem sameKey_trans (hab : sameKey a b = true) (hbc : sameKey b c = true) :
    sameKey a c = true := by
  rcases sameKey_iff.mp hab with ⟨m, d, n, e, ha, hb, heq⟩ | ⟨-, rfl, -⟩
  · rcases sameKey_iff.mp hbc with ⟨n', e', p, f, hb', hc, heq'⟩ | ⟨hnone, -⟩
    · rw [hb] at hb'
      cases hb'
      refine sameKey_iff.mpr (.inl ⟨m, d, p, f, ha, hc, ?_⟩)
      have he : (e : Int) ≠ 0 := Int.natCast_ne_zero.mpr (den_pos hb).ne'
      refine Int.eq_of_mul_eq_mul_right he ?_
      calc
        m * f * e = m * e * f := by ring
        _ = n * f * d := by rw [heq]; ring
        _ = p * d * e := by rw [heq']; ring
    · rw [hb] at hnone
      cases hnone
  · exact hbc

/-- Values that are one key are the same key as the same others. -/
theorem sameKey_congr (h : sameKey a b = true) (c : Value) : sameKey c a = sameKey c b :=
  Bool.eq_iff_iff.mpr ⟨fun hc ↦ sameKey_trans hc h, fun hc ↦ sameKey_trans hc (sameKey_symm h)⟩

/-! ### Looking up -/

theorem find?_nil (q : Value) : find? q [] = none := rfl

theorem find?_cons (q k v : Value) (m : List (Value × Value)) :
    find? q ((k, v) :: m) = if sameKey k q then some v else find? q m := by
  rw [find?, List.find?_cons]
  cases sameKey k q <;> rfl

theorem find?_congr (h : sameKey a b = true) (m : List (Value × Value)) :
    find? a m = find? b m := by
  simp only [find?, sameKey_congr h]

theorem find?_eq_none (h : ∀ e ∈ m, sameKey e.1 q = false) : find? q m = none := by
  rw [find?, List.find?_eq_none.mpr fun e he ↦ Bool.eq_false_iff.mp (h e he)]
  rfl

/-- What is assigned to a key is found under it, and the others stay as they are. -/
theorem find?_assign (q k v : Value) (m : List (Value × Value)) :
    find? q (assign k v m) = if sameKey k q then some v else find? q m := by
  induction m with
  | nil => exact find?_cons q k v []
  | cons e m ih =>
    obtain ⟨k', v'⟩ := e
    rw [assign]
    split
    · next hsame =>
      rw [find?_cons, find?_cons, sameKey_comm k' q, sameKey_congr hsame, sameKey_comm q k]
      split <;> rfl
    · next hsame =>
      rw [find?_cons, find?_cons, ih]
      split_ifs with hk' hk
      -- a key that is both of them would make them one
      · exact absurd (sameKey_trans hk' (sameKey_symm hk)) hsame
      all_goals rfl

/-! ### Paths -/

/-- The value that keys lead to, one mapping after the other. -/
def at? : Value → List Value → Option Value
  | v, [] => some v
  | mapping m, k :: path => (find? k m).bind fun v ↦ at? v path
  | _, _ :: _ => none

def isMapping : Value → Bool
  | mapping _ => true
  | _ => false

/-- Keys that lead to something other than a mapping and go on behind it. -/
def overruns : Value → List Value → Bool
  | _, [] => false
  | mapping m, k :: path =>
    match find? k m with
    | some v => overruns v path
    | none => false
  | _, _ :: _ => true

/-- No mapping that keys lead to has a key twice. -/
inductive HasDistinctKeys : Value → Prop
  | mapping {m : List (Value × Value)} (keys : m.Pairwise fun a b ↦ sameKey a.1 b.1 = false)
    (values : ∀ e ∈ m, HasDistinctKeys e.2) : HasDistinctKeys (mapping m)
  | other {v : Value} (h : v.isMapping = false) : HasDistinctKeys v

@[simp]
theorem at?_nil (v : Value) : at? v [] = some v := by rw [at?]

theorem at?_mapping_cons (m : List (Value × Value)) (k : Value) (path : List Value) :
    at? (mapping m) (k :: path) = (find? k m).bind fun v ↦ at? v path := rfl

theorem at?_cons_eq_none (hv : v.isMapping = false) (k : Value) (path : List Value) :
    at? v (k :: path) = none := by
  cases v <;> first | rfl | cases hv

theorem overruns_cons (hv : v.isMapping = false) (k : Value) (path : List Value) :
    overruns v (k :: path) = true := by
  cases v <;> first | rfl | cases hv

theorem HasDistinctKeys.pairwise (h : HasDistinctKeys (.mapping above)) :
    above.Pairwise fun a b ↦ sameKey a.1 b.1 = false := by
  cases h with
  | mapping keys => exact keys
  | other h => cases h

theorem HasDistinctKeys.of_find? (h : HasDistinctKeys (.mapping above))
    (hfind : find? k above = some v) : HasDistinctKeys v := by
  cases h with
  | mapping _ values =>
    obtain ⟨e, he, rfl⟩ := Option.map_eq_some_iff.mp hfind
    exact values e (List.mem_of_find?_eq_some he)
  | other h => cases h

/-! ### One value over another -/

/-- Two values that go into the result together, where elsewhere the upper one replaces what is
below it. -/
inductive Combine (key : Value) : Option Value → Value → Prop
  | mappings {below above : List (Value × Value)} :
    Combine key (some (mapping below)) (mapping above)
  | lists {below above : List Value} (hkey : key.isAdditive = true) :
    Combine key (some (list below)) (list above)

theorem overlay_mappings (key : Value) (below above : List (Value × Value)) :
    overlay key (some (mapping below)) (mapping above) = mapping (merge below above) := by
  rw [overlay, merge]

theorem overlay_lists (hkey : k.isAdditive = true) (below above : List Value) :
    overlay k (some (list below)) (list above) = list (union below above) := by
  rw [overlay, if_pos hkey]

theorem overlay_eq_self {below : Option Value} (h : ¬Combine k below v) :
    overlay k below v = v := by
  rw [overlay.eq_def]
  split
  · split
    · exact absurd .mappings h
    · rfl
  · split
    · split
      · next hkey => exact absurd (.lists hkey) h
      · rfl
    · rfl
  · rfl

theorem isMapping_overlay (key : Value) (below : Option Value) (v : Value) :
    (overlay key below v).isMapping = v.isMapping := by
  by_cases h : Combine key below v
  · cases h with
    | mappings => rw [overlay_mappings]; rfl
    | lists hkey => rw [overlay_lists hkey]; rfl
  · rw [overlay_eq_self h]

/-- The texts of two lists, each once and in ascending order. -/
theorem union_spec (below above : List Value) :
    ∃ ts : List Text, union below above = ts.map text ∧ ts.Pairwise (· < ·) ∧
      ∀ t, t ∈ ts ↔ ∃ v ∈ below ++ above, shown v = t := by
  refine ⟨_, rfl, Text.pairwise_lt_eraseDups ?_, fun t ↦ ?_⟩
  · exact Text.pairwise_sortBy id ((below ++ above).map shown)
  · rw [List.mem_eraseDups, List.mem_mergeSort, List.mem_map]

/-! ### One key -/

theorem isAdditive_of_number? {n : Int × Nat} (h : number? k = some n) : k.isAdditive = false := by
  cases k <;> first | rfl | cases h

theorem isAdditive_congr (h : sameKey k q = true) : k.isAdditive = q.isAdditive := by
  rcases sameKey_iff.mp h with ⟨_, _, _, _, hk, hq, -⟩ | ⟨-, rfl, -⟩
  · rw [isAdditive_of_number? hk, isAdditive_of_number? hq]
  · rfl

/-- A key matters only for whether lists add to each other under it. -/
theorem overlay_congr (h : sameKey k q = true) (below : Option Value) (v : Value) :
    overlay k below v = overlay q below v := by
  cases v <;> simp only [overlay, isAdditive_congr h]

/-- What is found under a key of a merged mapping. -/
theorem find?_merge (habove : above.Pairwise fun a b ↦ sameKey a.1 b.1 = false) (q : Value) :
    find? q (merge below above) =
      match find? q above with
      | some v => some (overlay q (find? q below) v)
      | none => find? q below := by
  rw [merge]
  induction above generalizing below with
  | nil => rw [overlayAll, find?_nil]
  | cons e above ih =>
    obtain ⟨k, v⟩ := e
    obtain ⟨hkey, habove⟩ := List.pairwise_cons.mp habove
    rw [overlayAll, ih habove, find?_cons, find?_assign]
    by_cases hsame : sameKey k q = true
    · have hrest : find? q above = none :=
        find?_eq_none fun e he ↦ by rw [← sameKey_congr hsame, sameKey_comm, hkey e he]
      rw [hrest, if_pos hsame, if_pos hsame, overlay_congr hsame, find?_congr hsame]
    · rw [if_neg hsame, if_neg hsame]

/-! ### One path -/

/-- The value at a path in what one value makes of the other. -/
theorem at?_overlay (key : Value) (below : Option Value) (v : Value) (path : List Value)
    (hv : HasDistinctKeys v) :
    at? (overlay key below v) path =
      match at? v path with
      | some u => some (overlay (path.getLastD key) (below.bind fun w ↦ at? w path) u)
      | none => if overruns v path then none else below.bind fun w ↦ at? w path := by
  induction path generalizing key below v with
  | nil => simp
  | cons k path ih =>
    by_cases hboth : ∃ b a, below = some (mapping b) ∧ v = mapping a
    · obtain ⟨b, a, rfl, rfl⟩ := hboth
      rw [overlay_mappings, at?_mapping_cons, find?_merge hv.pairwise, at?_mapping_cons,
        Option.bind_some, at?_mapping_cons, overruns, List.getLastD_cons]
      cases hfind : find? k a with
      | none => simp
      | some u => simp [ih k (find? k b) u (hv.of_find? hfind)]
    · cases hv' : v.isMapping with
      | false =>
        rw [at?_cons_eq_none (isMapping_overlay key below v ▸ hv'), at?_cons_eq_none hv',
          overruns_cons hv', if_pos rfl]
      | true =>
        have hself : overlay key below v = v := overlay_eq_self fun h ↦ by
          cases h with
          | mappings => exact hboth ⟨_, _, rfl, rfl⟩
          | lists => cases hv'
        have hbelow : (below.bind fun w ↦ at? w (k :: path)) = none := by
          rw [Option.bind_eq_none_iff]
          intro w hw
          refine at?_cons_eq_none (Bool.eq_false_iff.mpr fun hw' ↦ hboth ?_) k path
          cases w <;> cases hw'
          cases v <;> cases hv'
          exact ⟨_, _, hw, rfl⟩
        rw [hself, hbelow]
        cases at? v (k :: path) with
        | none => simp
        | some u =>
          have hu (key : Value) : ¬Combine key none u := nofun
          exact congrArg some (overlay_eq_self (hu _)).symm

/-- A mapping laid over another one, as it is at a path: where the upper one has nothing, there is
what the lower one has, unless a part of the path leads to something other than a mapping in the
upper one. Two mappings are merged, two lists under an additive key become the texts of both, each
once and in ascending order, and otherwise there is what the upper one has. -/
structure IsMergedAt (below above result : Value) (path : List Value) : Prop where
  absent : at? above path = none →
    at? result path = if overruns above path then none else at? below path
  mappings : ∀ b a, at? below path = some (mapping b) → at? above path = some (mapping a) →
    at? result path = some (mapping (merge b a))
  lists : ∀ key xs ys, path.getLast? = some key → key.isAdditive = true →
    at? below path = some (list xs) → at? above path = some (list ys) →
      ∃ ts : List Text, at? result path = some (list (ts.map text)) ∧ ts.Pairwise (· < ·) ∧
        ∀ t, t ∈ ts ↔ ∃ v ∈ xs ++ ys, shown v = t
  replaced : ∀ v, at? above path = some v →
    ¬Combine (path.getLastD null) (at? below path) v → at? result path = some v

theorem at?_merge (habove : HasDistinctKeys (.mapping above)) (path : List Value) :
    at? (mapping (merge below above)) path =
      match at? (mapping above) path with
      | some u => some (overlay (path.getLastD null) (at? (mapping below) path) u)
      | none => if overruns (mapping above) path then none else at? (mapping below) path := by
  have hat := at?_overlay null (some (mapping below)) (mapping above) path habove
  rwa [overlay_mappings, Option.bind_some] at hat

/-- **Merging, path by path.** For all mappings, those that are laid over without a key that occurs
twice, and every path: the result is what the two have there, merged. In particular no list under an
additive key takes anything away from a list that is below it. -/
theorem merge_isMergedAt (below above : List (Value × Value))
    (habove : HasDistinctKeys (.mapping above)) (path : List Value) :
    let result := mapping (merge below above)
    IsMergedAt (mapping below) (mapping above) result path ∧
      ∀ key xs ys, path.getLast? = some key → key.isAdditive = true →
        at? (mapping below) path = some (list xs) → at? (mapping above) path = some (list ys) →
          ∃ zs, at? result path = some (list zs) ∧ ∀ x ∈ xs, text (shown x) ∈ zs := by
  intro result
  have hlists : ∀ key xs ys, path.getLast? = some key → key.isAdditive = true →
      at? (mapping below) path = some (list xs) → at? (mapping above) path = some (list ys) →
        at? result path = some (list (union xs ys)) := by
    intro key xs ys hlast hkey hbelow hlist
    have hkey' : (path.getLastD null).isAdditive = true := by
      rwa [List.getLastD_eq_getLast?, hlast]
    rw [at?_merge habove, hlist, hbelow]
    exact congrArg some (overlay_lists hkey' xs ys)
  refine ⟨⟨fun hnone ↦ ?_, fun b a hb ha ↦ ?_, ?_, fun v hv hcombine ↦ ?_⟩, ?_⟩
  · rw [at?_merge habove, hnone]
  · rw [at?_merge habove, ha, hb]
    exact congrArg some (overlay_mappings _ b a)
  · intro key xs ys hlast hkey hbelow hlist
    obtain ⟨ts, hunion, hsorted, hmem⟩ := union_spec xs ys
    exact ⟨ts, hunion ▸ hlists key xs ys hlast hkey hbelow hlist, hsorted, hmem⟩
  · rw [at?_merge habove, hv]
    exact congrArg some (overlay_eq_self hcombine)
  · intro key xs ys hlast hkey hbelow hlist
    obtain ⟨ts, hunion, -, hmem⟩ := union_spec xs ys
    refine ⟨_, hlists key xs ys hlast hkey hbelow hlist, fun x hx ↦ ?_⟩
    rw [hunion]
    exact List.mem_map_of_mem ((hmem _).mpr ⟨x, List.mem_append_left ys hx, rfl⟩)

/-- Settings that give a list of their own under an additive key, and a number in the place of a
section. -/
def ownNames : List (Value × Value) :=
  [(text "libraries", mapping [(text "internal_names", list [text "mine", text "rti"])]),
    (text "output", int 1)]

/-- A list of their own leaves the settings the names that are there by default. -/
theorem merge_isMergedAt_names :
    let path := [text "libraries", text "internal_names"]
    HasDistinctKeys (.mapping ownNames) ∧
      IsMergedAt Settings.default.toValue (.mapping ownNames)
        (Settings.default.overlay ownNames).toValue path ∧
      ∃ zs, at? (Settings.default.overlay ownNames).toValue path = some (list zs) ∧
        text "metadata" ∈ zs := by
  intro path
  have hnames : HasDistinctKeys
      (mapping [(text "internal_names", list [text "mine", text "rti"])]) :=
    .mapping (List.pairwise_singleton _ _) (List.forall_mem_singleton.mpr (.other rfl))
  have hdistinct : HasDistinctKeys (mapping ownNames) :=
    .mapping (List.pairwise_pair.mpr rfl)
      (List.forall_mem_cons.mpr ⟨hnames, List.forall_mem_singleton.mpr (.other rfl)⟩)
  obtain ⟨hmerged, hkept⟩ := merge_isMergedAt Settings.default.entries ownNames hdistinct path
  obtain ⟨zs, hzs, hmem⟩ := hkept (text "internal_names") _ _ rfl rfl rfl rfl
  refine ⟨hdistinct, hmerged, zs, hzs, hmem (text "metadata") ?_⟩
  simp

/-- What is below something that is no mapping any more is gone. -/
example : at? (mapping (merge Settings.default.entries [(text "output", int 1)]))
    [text "output", text "managed_dirs"] = none := by rfl

end ApiSite.Value
