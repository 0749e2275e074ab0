import ApiSite.Proofs.Model.Implementers
import ApiSite.Proofs.Page.Sections
import Mathlib.Data.List.Forall2
import Mathlib.Data.List.Perm.Subperm

/-!
# Inheritance chains end

The page of a container shows the types that the container inherits from, the nearest first. What a
document says about supertypes need make no sense: a class may be its own supertype, classes may
stand in a circle, and the way upward may come into a circle from outside. `Ascends` is this way
without any bound. It goes on from a container only if it has not come through it before, so the
containers that are still to be seen (`unseen`) get fewer with each step. That is all the fuel that
the search needs (`ascends_inheritanceFrom`).

The containers that a way has come through are all different (`Ascends.exists_passed`). There are
only so many of them, and so the types on the way are no more than the containers of the model
(`inheritance_ends`).
-/

set_option autoImplicit false

namespace ApiSite.Page

open Model

variable {site : Site} {m : Model} {place place' : Place} {seen : List Place} {t : TypeRef}
  {next : Option TypeRef} {chain chain' : List TypeRef} {c c' : Container} {e : Entity}
  {fuel : ℕ}

/-! ### Containers to be seen -/

theorem map_snd_placedContainers (packages : List Package) :
    (placedContainers packages).map Prod.snd =
      packages.flatMap fun p ↦ p.libraries.flatMap Library.containers := by
  have hfirst {α β : Type} (f : α → List β) (l : List α) :
      (l.zipIdx.flatMap fun x ↦ f x.1) = l.flatMap f := by
    rw [← List.flatMap_map Prod.fst f, List.zipIdx_map_fst]
  simp only [placedContainers, List.map_flatMap, List.map_map, Function.comp_def,
    List.zipIdx_map_fst]
  rw [hfirst fun p : Package ↦ p.libraries.zipIdx.flatMap fun x ↦ x.1.containers]
  exact congrArg packages.flatMap (funext fun p ↦ hfirst Library.containers p.libraries)

theorem containerCount_eq (m : Model) : containerCount m = m.containers.length := by
  have hplaces := congrArg List.length (map_place_containers m)
  have hvalues := congrArg List.length (map_snd_placedContainers m.packages)
  rw [List.length_map] at hvalues
  rw [List.length_map, List.length_map, hvalues] at hplaces
  rw [hplaces, containerCount, ← total_map_length]
  exact congrArg (fun f ↦ total (m.packages.map f)) (funext fun p ↦ total_map_length _ _)

/-- The containers of a model that are none of some. -/
def unseen (m : Model) (seen : List Place) : List Place :=
  (m.containers.map Entity.place).filter (· ∉ seen)

theorem length_unseen_le (m : Model) (seen : List Place) :
    (unseen m seen).length ≤ containerCount m := by
  rw [containerCount_eq, ← List.length_map (f := Entity.place)]
  exact List.length_filter_le _ _

/-- With each container that is seen for the first time, fewer are still to be seen. -/
theorem length_unseen_lt (hplace : place ∈ m.containers.map Entity.place) (hnew : place ∉ seen) :
    (unseen m (place :: seen)).length < (unseen m seen).length := by
  have hfilter : unseen m (place :: seen) = (unseen m seen).filter (· ≠ place) := by
    rw [unseen, unseen, List.filter_filter]
    refine List.filter_congr fun other _ ↦ ?_
    simp [not_or]
  have hmem : place ∈ unseen m seen := List.mem_filter.mpr ⟨hplace, by simpa using hnew⟩
  rw [hfilter]
  exact List.length_filter_lt_length_iff_exists.mpr ⟨place, hmem, by simp⟩

/-! ### The way upward -/

/-- A type refers to the container at a place. -/
def RefersTo (site : Site) (t : TypeRef) (place : Place) (c : Container) : Prop :=
  ∃ outer, site.targetOf t = some ⟨place, .container c, outer⟩

theorem RefersTo.unique (h : RefersTo site t place c) (h' : RefersTo site t place' c') :
    place = place' ∧ c = c' := by
  obtain ⟨outer, h⟩ := h
  obtain ⟨outer', h'⟩ := h'
  cases h.symm.trans h'
  exact ⟨rfl, rfl⟩

/-- What a type refers to is in the model. -/
theorem RefersTo.mem_containers (h : RefersTo site t place c) :
    place ∈ site.model.containers.map Entity.place := by
  obtain ⟨outer, h⟩ := h
  obtain ⟨target, -, h⟩ := Option.bind_eq_some_iff.mp h
  exact List.mem_map.mpr ⟨_, mem_containers_iff.mpr ⟨isIn_of_entity? h, c, rfl⟩, rfl⟩

/-- The way upward from the type that comes next meets the types of a chain, where it has come
through some containers before. It ends where no type comes next, before a type that every
declaration has as a base, and with a type that refers to no container but those seen before. -/
inductive Ascends (site : Site) : (seen : List Place) → (next : Option TypeRef) →
    (chain : List TypeRef) → Prop where
  | top {seen : List Place} : Ascends site seen none []
  | base {seen : List Place} {t : TypeRef} (hbase : Signature.isHiddenBase t = true) :
    Ascends site seen (some t) []
  | last {seen : List Place} {t : TypeRef} (hbase : Signature.isHiddenBase t = false)
    (hlast : ∀ place c, RefersTo site t place c → place ∈ seen) : Ascends site seen (some t) [t]
  | step {seen : List Place} {t : TypeRef} {place : Place} {c : Container} {chain : List TypeRef}
    (hbase : Signature.isHiddenBase t = false) (hrefers : RefersTo site t place c)
    (hnew : place ∉ seen) (hrest : Ascends site (place :: seen) c.supertype chain) :
    Ascends site seen (some t) (t :: chain)

/-- There is one way upward. -/
theorem Ascends.unique (h : Ascends site seen next chain) (h' : Ascends site seen next chain') :
    chain = chain' := by
  induction h generalizing chain' with
  | top =>
    cases h'
    rfl
  | base hbase => cases h' <;> simp_all
  | last hbase hlast =>
    cases h' with
    | base hbase' => simp_all
    | last => rfl
    | step _ hrefers hnew => exact absurd (hlast _ _ hrefers) hnew
  | step hbase hrefers hnew _ ih =>
    cases h' with
    | base hbase' => simp_all
    | last _ hlast => exact absurd (hlast _ _ hrefers) hnew
    | step _ hrefers' _ hrest' =>
      obtain ⟨rfl, rfl⟩ := hrefers.unique hrefers'
      rw [ih hrest']

/-! ### The search -/

theorem inheritanceFrom_of_refersTo (hbase : Signature.isHiddenBase t = false)
    (hrefers : RefersTo site t place c) : inheritanceFrom site (fuel + 1) seen (some t) =
      t :: if seen.contains place then [] else
        inheritanceFrom site fuel (place :: seen) c.supertype := by
  obtain ⟨outer, hrefers⟩ := hrefers
  rw [inheritanceFrom, hbase, if_neg Bool.false_ne_true, hrefers]

theorem inheritanceFrom_of_not_refersTo (hbase : Signature.isHiddenBase t = false)
    (hrefers : ∀ place c, ¬RefersTo site t place c) :
    inheritanceFrom site (fuel + 1) seen (some t) = [t] := by
  rw [inheritanceFrom, hbase, if_neg Bool.false_ne_true]
  split
  · next place c outer htarget => exact absurd ⟨outer, htarget⟩ (hrefers place c)
  · rfl

/-- The search follows the way upward to its end, if it has fuel for the containers that are still
to be seen. -/
theorem ascends_inheritanceFrom (hfuel : (unseen site.model seen).length < fuel) :
    Ascends site seen next (inheritanceFrom site fuel seen next) := by
  induction fuel generalizing seen next with
  | zero => exact absurd hfuel (Nat.not_lt_zero _)
  | succ fuel ih =>
    cases next with
    | none => exact .top
    | some t =>
      cases hbase : Signature.isHiddenBase t with
      | true =>
        rw [inheritanceFrom, hbase, if_pos rfl]
        exact .base hbase
      | false =>
        by_cases hrefers : ∃ place c, RefersTo site t place c
        · obtain ⟨place, c, hrefers⟩ := hrefers
          rw [inheritanceFrom_of_refersTo hbase hrefers]
          by_cases hseen : place ∈ seen
          · rw [if_pos (List.contains_iff_mem.mpr hseen)]
            refine .last hbase fun place' c' hrefers' ↦ ?_
            rwa [(hrefers'.unique hrefers).1]
          · rw [if_neg fun h ↦ hseen (List.contains_iff_mem.mp h)]
            have hfewer := length_unseen_lt hrefers.mem_containers hseen
            exact .step hbase hrefers hseen (ih (by omega))
        · push Not at hrefers
          rw [inheritanceFrom_of_not_refersTo hbase hrefers]
          exact .last hbase fun place c h ↦ absurd h (hrefers place c)

theorem ascends_inheritance (site : Site) (place : Place) (c : Container) :
    Ascends site [place] c.supertype (inheritance site place c) :=
  ascends_inheritanceFrom (Nat.lt_succ_of_le (length_unseen_le site.model [place]))

/-! ### The containers on the way -/

/-- Each type of a way but the last refers to a container. These containers are all different, and
the way has not come through any of them before. -/
theorem Ascends.exists_passed (h : Ascends site seen next chain) :
    ∃ passed, List.Forall₂ (fun t place ↦ ∃ c, RefersTo site t place c) chain.dropLast passed ∧
      passed.Nodup ∧ ∀ place ∈ passed, place ∉ seen := by
  induction h with
  | top | base | last => exact ⟨[], .nil, List.nodup_nil, List.forall_mem_nil _⟩
  | @step seen t place c chain _ hrefers hnew _ ih =>
    obtain ⟨passed, hpassed, hnodup, hunseen⟩ := ih
    cases chain with
    | nil => exact ⟨[], .nil, List.nodup_nil, List.forall_mem_nil _⟩
    | cons u chain =>
      refine ⟨place :: passed, .cons ⟨c, hrefers⟩ hpassed, List.nodup_cons.mpr ⟨?_, hnodup⟩, ?_⟩
      · exact fun hmem ↦ hunseen place hmem List.mem_cons_self
      · refine List.forall_mem_cons.mpr ⟨hnew, fun other hother ↦ ?_⟩
        exact List.not_mem_of_not_mem_cons (hunseen other hother)

/-- **Inheritance chains end.** Whatever the supertypes in a model refer to: the way upward from a
container ends, and the chain that its page shows is what is on this way. The types of the chain are
no more than the containers of the model; each of them but the last refers to a container, and these
containers and the one that the way begins with are all different. -/
theorem inheritance_ends (he : e.IsIn site.model) (hnode : e.node = .container c) :
    (∀ chain, Ascends site [e.place] c.supertype chain ↔ chain = inheritance site e.place c) ∧
    (inheritance site e.place c).length ≤ site.model.containers.length ∧
    ∃ passed, List.Forall₂ (fun t place ↦ ∃ d, RefersTo site t place d)
        (inheritance site e.place c).dropLast passed ∧
      (e.place :: passed).Nodup := by
  have hascends := ascends_inheritance site e.place c
  obtain ⟨passed, hpassed, hnodup, hunseen⟩ := hascends.exists_passed
  have hall : (e.place :: passed).Nodup := List.nodup_cons.mpr
    ⟨fun hmem ↦ hunseen _ hmem (List.mem_singleton_self _), hnodup⟩
  refine ⟨fun chain ↦ ⟨fun h ↦ h.unique hascends, fun h ↦ h ▸ hascends⟩, ?_, passed, hpassed, hall⟩
  have hplaces : e.place :: passed ⊆ site.model.containers.map Entity.place := by
    refine List.cons_subset.mpr
      ⟨List.mem_map_of_mem (mem_containers_iff.mpr ⟨he, c, hnode⟩), fun place hplace ↦ ?_⟩
    obtain ⟨t, -, d, hrefers⟩ := hpassed.exists_left hplace
    exact hrefers.mem_containers
  have hcount := (List.subperm_of_subset hall hplaces).length_le
  have hlength := hpassed.length_eq
  rw [List.length_cons, List.length_map, ← hlength, List.length_dropLast] at hcount
  omega

/-! ### A circle that is entered from outside -/

/-- A class whose supertype is one of two classes that are each the supertype of the other. -/
def circleDoc : Value := .record [("package", .record [("name", .text "kit"),
  ("libraries", .list [.record [("name", .text "fruit"), ("containers", .list [
    .record [("name", .text "Seed"), ("kind", .text "class"), ("supertype", .text "Apple")],
    .record [("name", .text "Apple"), ("kind", .text "class"), ("supertype", .text "Fruit")],
    .record [("name", .text "Fruit"), ("kind", .text "class"),
      ("supertype", .text "Apple")]])]])])]

def appleSupertype : TypeRef := .mk "Apple" [] false .null .null (some (.container 0 0 1))

def fruitSupertype : TypeRef := .mk "Fruit" [] false .null .null (some (.container 0 0 2))

def seedClass : Container := { name := "Seed", kind := "class", supertype := some appleSupertype }

def circleLibrary : Library :=
  { name := "fruit", kind := "library", dirName := "fruit",
    containers := [seedClass,
      { name := "Apple", kind := "class", supertype := some fruitSupertype,
        implementers := [.container 0 0 0, .container 0 0 2] },
      { name := "Fruit", kind := "class", supertype := some appleSupertype,
        implementers := [.container 0 0 1] }] }

def circlePackage : Package := { name := "kit", kind := "package", libraries := [circleLibrary] }

/-- A site of these classes. -/
def circleSite : Site :=
  let model : Model := ⟨[circlePackage], [], "kit"⟩
  ⟨model, (Location.build ⟨[], [], [], []⟩ model.entities).1, .of [] [], [], 80, none⟩

def seedEntity : Entity :=
  ⟨.container 0 0 0, .container seedClass, [.library circleLibrary, .package circlePackage]⟩

/-- The way from the class outside goes once round the circle, and ends where it comes to a class
for the second time. -/
theorem inheritance_ends_circle :
    (ofValue circleDoc).1 = .ok circleSite.model ∧ seedEntity.IsIn circleSite.model ∧
    (inheritance circleSite seedEntity.place seedClass).map TypeRef.name =
      Text.ofStrings ["Apple", "Fruit", "Apple"] ∧
    (inheritance circleSite seedEntity.place seedClass).length ≤ 3 ∧
    Ascends circleSite [seedEntity.place] (some appleSupertype)
      (inheritance circleSite seedEntity.place seedClass) := by
  have hplace : circleSite.model.entity? (.container 0 0 0) = some seedEntity := rfl
  have hin : seedEntity.IsIn circleSite.model := isIn_of_entity? hplace
  obtain ⟨hway, hlength, -⟩ := inheritance_ends hin rfl
  exact ⟨rfl, hin, rfl, hlength, (hway _).mpr rfl⟩

end ApiSite.Page
