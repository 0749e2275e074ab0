import ApiSite.Proofs.Model.Linking
import Mathlib.Data.List.Sigma

/-!
# How containers become known to each other

Containers are gone through one after the other, and each is made known to those that it names. Seen
from one container, a step of this loop adds at most the place of the container whose turn it is
(`Container.hear`), and the whole loop does to each container what it hears from all
(`foldl_announce`). So a container that nobody has become known to ends with those that name it,
each once and in order (`foldl_hear_implementers`, `foldl_hear_extensions`), however often they name
it and whether or not it names them in turn.

Nothing else is changed by this. What linking has made of the declarations stays (`links_derive`).
-/

set_option autoImplicit false

/-! ### Lists with positions -/

namespace List

variable {α β γ : Type}

theorem modify_eq_mapIdx (f : α → α) (i : ℕ) (l : List α) :
    l.modify i f = l.mapIdx fun j a ↦ if i = j then f a else a := by
  refine ext_getElem? fun j ↦ ?_
  rw [getElem?_modify, getElem?_mapIdx]
  rfl

theorem mapIdx_eq_self {f : ℕ → α → α} {l : List α} (hf : ∀ i a, f i a = a) : l.mapIdx f = l := by
  refine ext_getElem? fun j ↦ ?_
  rw [getElem?_mapIdx, funext (hf j), Option.map_id']

theorem zipIdx_mapIdx (f : ℕ → α → β) (l : List α) :
    (l.mapIdx f).zipIdx = l.zipIdx.map fun x ↦ (f x.2 x.1, x.2) := by
  refine ext_getElem? fun j ↦ ?_
  rw [getElem?_zipIdx, getElem?_mapIdx, getElem?_map, getElem?_zipIdx, Option.map_map,
    Option.map_map]
  simp only [Function.comp_def, Nat.zero_add]

theorem Forall₂.mapIdx {R S : α → β → Prop} {as : List α} {bs : List β} {f : ℕ → β → β}
    (h : Forall₂ R as bs) (hf : ∀ i a b, R a b → S a (f i b)) : Forall₂ S as (bs.mapIdx f) := by
  induction h generalizing f with
  | nil => exact .nil
  | cons hfirst _ ih =>
    rw [mapIdx_cons]
    exact .cons (hf 0 _ _ hfirst) (ih fun i ↦ hf (i + 1))

/-- Parts that are made from the items of a list have nothing in common if each shows the position
of its item. -/
theorem nodup_flatMap_zipIdx {f : α × ℕ → List β} {l : List α} (hf : ∀ x, (f x).Nodup)
    (hposition : ∀ x y b, b ∈ f x → b ∈ f y → x.2 = y.2) : (l.zipIdx.flatMap f).Nodup := by
  refine nodup_flatMap.mpr ⟨fun x _ ↦ hf x, ?_⟩
  exact (pairwise_map.mp (nodup_zipIdx_map_snd l)).imp fun hne b hx hy ↦
    hne (hposition _ _ b hx hy)

end List

namespace ApiSite.Model

variable {packages : List Package} {place t : Place} {c : Container} {entry : Place × Container}
  {entries : List (Place × Container)} {f g : Place → Container → Container}

/-! ### Changes of all containers -/

/-- Changes every container, with regard to its place. -/
def mapContainers (f : Place → Container → Container) (packages : List Package) : List Package :=
  packages.mapIdx fun p pkg ↦
    { pkg with
      libraries := pkg.libraries.mapIdx fun l lib ↦
        { lib with containers := lib.containers.mapIdx fun i c ↦ f (.container p l i) c } }

theorem mapContainers_eq_self (hf : ∀ p l i c, f (.container p l i) c = c) :
    mapContainers f packages = packages := by
  refine List.mapIdx_eq_self fun p pkg ↦ ?_
  have hlibraries : (pkg.libraries.mapIdx fun l lib ↦
      { lib with containers := lib.containers.mapIdx fun i c ↦ f (.container p l i) c }) =
        pkg.libraries := by
    refine List.mapIdx_eq_self fun l lib ↦ ?_
    rw [List.mapIdx_eq_self fun i c ↦ hf p l i c]
  rw [hlibraries]

theorem mapContainers_mapContainers (f g : Place → Container → Container)
    (packages : List Package) : mapContainers f (mapContainers g packages) =
      mapContainers (fun place c ↦ f place (g place c)) packages := by
  simp only [mapContainers, List.mapIdx_mapIdx, Function.comp_def]

theorem mapContainers_congr (hfg : ∀ place c, f place c = g place c) :
    mapContainers f packages = mapContainers g packages := by
  rw [funext fun place ↦ funext (hfg place)]

/-- To change one container is to change all of which it is the only one. -/
theorem changeContainer_eq_mapContainers (change : Container → Container)
    (packages : List Package) (target : Place) : changeContainer change packages target =
      mapContainers (fun place c ↦ if place = target then change c else c) packages := by
  unfold changeContainer
  split
  · next p l i =>
    unfold mapContainers
    rw [List.modify_eq_mapIdx]
    congr 1
    funext p' pkg
    by_cases hp : p = p'
    · subst hp
      rw [if_pos rfl, List.modify_eq_mapIdx]
      congr 2
      funext l' lib
      by_cases hl : l = l'
      · subst hl
        rw [if_pos rfl, List.modify_eq_mapIdx]
        congr 2
        funext i' c
        simp [eq_comm]
      · simp [hl, Ne.symm hl, List.mapIdx_eq_self]
    · simp [hp, Ne.symm hp, List.mapIdx_eq_self]
  · next hother =>
    exact (mapContainers_eq_self fun p l i c ↦ if_neg (hother p l i ·.symm)).symm

/-! ### What a container hears -/

theorem addImplementer_addImplementer (c : Container) (place : Place) :
    (c.addImplementer place).addImplementer place = c.addImplementer place := by
  unfold Container.addImplementer
  split
  · rfl
  · simp

/-- Whether a container names a declaration as a type that it is made from, and is another one. -/
def namesParent (t : Place) (entry : Place × Container) : Bool :=
  t ∈ entry.2.parents ∧ t ≠ entry.1

/-- Whether a container is an extension on a declaration. -/
def namesExtended (t : Place) (entry : Place × Container) : Bool := entry.2.extended? = some t

/-- What becomes of a container at a place `t` when another one is made known. -/
def Container.hear (t : Place) (c : Container) (entry : Place × Container) : Container :=
  let told := if namesParent t entry then c.addImplementer entry.1 else c
  if namesExtended t entry then told.addExtension entry.1 else told

/-- A container is told once by one that names it, however often it does. -/
theorem foldl_tellParent (place : Place) (parents : List Place) (packages : List Package) :
    parents.foldl (tellParent place) packages = mapContainers
      (fun t c ↦ if t ∈ parents ∧ t ≠ place then c.addImplementer place else c) packages := by
  induction parents generalizing packages with
  | nil => exact (mapContainers_eq_self fun p l i c ↦ if_neg (by simp)).symm
  | cons parent parents ih =>
    rw [List.foldl_cons, ih, tellParent]
    split
    · next hself =>
      subst hself
      refine mapContainers_congr fun t c ↦ if_congr ?_ rfl rfl
      grind
    · next hother =>
      rw [changeContainer_eq_mapContainers, mapContainers_mapContainers]
      refine mapContainers_congr fun t c ↦ ?_
      by_cases ht : t = parent
      · subst ht
        by_cases hmem : t ∈ parents <;> simp [hmem, hother, addImplementer_addImplementer]
      · simp [ht]

theorem announce_eq_mapContainers (packages : List Package) (entry : Place × Container) :
    announce packages entry = mapContainers (fun t c ↦ c.hear t entry) packages := by
  obtain ⟨place, c⟩ := entry
  simp only [announce, foldl_tellParent]
  split
  · next extended hextended =>
    rw [changeContainer_eq_mapContainers, mapContainers_mapContainers]
    refine mapContainers_congr fun t d ↦ ?_
    simp only [Container.hear, namesParent, namesExtended, hextended, decide_eq_true_eq,
      Option.some.injEq, eq_comm (a := t)]
  · next hextended =>
    refine mapContainers_congr fun t d ↦ ?_
    simp [Container.hear, namesParent, namesExtended, hextended]

/-- After all containers have been made known, each has heard of all. -/
theorem foldl_announce (entries : List (Place × Container)) (packages : List Package) :
    entries.foldl announce packages =
      mapContainers (fun t c ↦ entries.foldl (Container.hear t) c) packages := by
  induction entries generalizing packages with
  | nil => exact (mapContainers_eq_self fun p l i c ↦ rfl).symm
  | cons entry entries ih =>
    rw [List.foldl_cons, ih, announce_eq_mapContainers, mapContainers_mapContainers]
    rfl

/-! ### What hearing keeps -/

/-- A container, and the same one knowing of others. -/
def Container.Told (c told : Container) : Prop :=
  ∃ implementers extensions,
    told = { c with implementers := implementers, extensions := extensions }

theorem Container.Told.trans {d e : Container} (hcd : c.Told d) (hde : d.Told e) : c.Told e := by
  obtain ⟨_, _, rfl⟩ := hcd
  obtain ⟨implementers, extensions, rfl⟩ := hde
  exact ⟨implementers, extensions, rfl⟩

theorem told_hear (t : Place) (c : Container) (entry : Place × Container) :
    c.Told (c.hear t entry) := by
  unfold Container.hear Container.addImplementer Container.addExtension
  split <;> split <;> try split
  all_goals exact ⟨_, _, rfl⟩

theorem told_foldl_hear (t : Place) (c : Container) (entries : List (Place × Container)) :
    c.Told (entries.foldl (Container.hear t) c) := by
  induction entries generalizing c with
  | nil => exact ⟨_, _, rfl⟩
  | cons entry entries ih => exact (told_hear t c entry).trans (ih _)

/-! ### What a container ends with -/

/-- The places of the containers that pass a test. -/
def placesWhere (test : Place × Container → Bool) (entries : List (Place × Container)) :
    List Place :=
  (entries.filter test).map Prod.fst

theorem placesWhere_cons (test : Place × Container → Bool) (entry : Place × Container)
    (entries : List (Place × Container)) :
    placesWhere test (entry :: entries) = placesWhere test [entry] ++ placesWhere test entries := by
  rw [← List.singleton_append, placesWhere, List.filter_append, List.map_append]
  rfl

theorem placesWhere_sublist (test : Place × Container → Bool)
    (entries : List (Place × Container)) :
    (placesWhere test entries).Sublist (entries.map Prod.fst) :=
  List.filter_sublist.map Prod.fst

theorem hear_implementers (hnew : entry.1 ∉ c.implementers) :
    (c.hear t entry).implementers = c.implementers ++ placesWhere (namesParent t) [entry] := by
  unfold Container.hear Container.addImplementer Container.addExtension placesWhere
  grind

theorem hear_extensions :
    (c.hear t entry).extensions = c.extensions ++ placesWhere (namesExtended t) [entry] := by
  unfold Container.hear Container.addImplementer Container.addExtension placesWhere
  grind

/-- A container that hears for the first time of others, each of which stands at a place of its own,
knows afterwards of exactly those that name it, in order. -/
theorem foldl_hear_implementers (hplaces : (entries.map Prod.fst).Nodup)
    (hnew : ∀ known ∈ c.implementers, known ∉ entries.map Prod.fst) :
    (entries.foldl (Container.hear t) c).implementers =
      c.implementers ++ placesWhere (namesParent t) entries := by
  induction entries generalizing c with
  | nil => exact (List.append_nil _).symm
  | cons entry entries ih =>
    obtain ⟨hfirst, hplaces⟩ := List.nodup_cons.mp hplaces
    have hheard := hear_implementers (t := t) fun hknown ↦ hnew entry.1 hknown List.mem_cons_self
    have hrest : ∀ known ∈ (c.hear t entry).implementers, known ∉ entries.map Prod.fst := by
      intro known hknown
      rw [hheard] at hknown
      rcases List.mem_append.mp hknown with hknown | hknown
      · exact fun hmem ↦ hnew known hknown (List.mem_cons_of_mem _ hmem)
      · obtain rfl := List.mem_singleton.mp ((placesWhere_sublist _ _).subset hknown)
        exact hfirst
    rw [List.foldl_cons, ih hplaces hrest, hheard, List.append_assoc, ← placesWhere_cons]

theorem foldl_hear_extensions : (entries.foldl (Container.hear t) c).extensions =
    c.extensions ++ placesWhere (namesExtended t) entries := by
  induction entries generalizing c with
  | nil => exact (List.append_nil _).symm
  | cons entry entries ih =>
    rw [List.foldl_cons, ih, hear_extensions, List.append_assoc, ← placesWhere_cons]

/-! ### Places of containers -/

theorem placedContainers_mapContainers (f : Place → Container → Container)
    (packages : List Package) : placedContainers (mapContainers f packages) =
      (placedContainers packages).map fun entry ↦ (entry.1, f entry.1 entry.2) := by
  simp only [placedContainers, mapContainers, List.zipIdx_mapIdx, List.flatMap_map,
    List.map_flatMap, List.map_map, Function.comp_def]

theorem exists_of_mem_placedContainers (h : entry ∈ placedContainers packages) :
    ∃ pkg ∈ packages, ∃ lib ∈ pkg.libraries, entry.2 ∈ lib.containers := by
  simp only [placedContainers, List.mem_flatMap, List.mem_map] at h
  obtain ⟨x, hx, y, hy, z, hz, rfl⟩ := h
  exact ⟨x.1, List.fst_mem_of_mem_zipIdx hx, y.1, List.fst_mem_of_mem_zipIdx hy,
    List.fst_mem_of_mem_zipIdx hz⟩

/-- Containers stand at different places. -/
theorem nodup_placedContainers (packages : List Package) :
    ((placedContainers packages).map Prod.fst).Nodup := by
  simp only [placedContainers, List.map_flatMap, List.map_map, Function.comp_def]
  refine List.nodup_flatMap_zipIdx (fun x ↦ List.nodup_flatMap_zipIdx (fun y ↦ ?_) ?_) ?_
  · have hplaces := (List.nodup_zipIdx_map_snd y.1.containers).map
      (f := Place.container x.2 y.2) fun i j heq ↦ (Place.container.inj heq).2.2
    rwa [List.map_map] at hplaces
  · grind
  · grind

/-! ### What derivation makes of packages -/

theorem derive_eq (packages : List Package) : derive packages =
    (mapContainers (fun t c ↦ (placedContainers packages).foldl (Container.hear t) c)
      packages).mapIdx collectTopics := by
  rw [derive, foldl_announce, List.mapIdx_eq_zipIdx_map]

theorem placedContainers_mapIdx_collectTopics (packages : List Package) :
    placedContainers (packages.mapIdx collectTopics) = placedContainers packages := by
  rw [placedContainers, List.zipIdx_mapIdx, List.flatMap_map]
  rfl

theorem placedContainers_derive (packages : List Package) : placedContainers (derive packages) =
    (placedContainers packages).map fun entry ↦
      (entry.1, (placedContainers packages).foldl (Container.hear entry.1) entry.2) := by
  rw [derive_eq, placedContainers_mapIdx_collectTopics, placedContainers_mapContainers]

/-- Declarations are afterwards what linking has made of them. -/
theorem links_derive {ix : Index} {named : List NamedPackage}
    (h : List.Forall₂ (ix.LinksPackage ix.PlacesContainer) named packages) :
    List.Forall₂ (ix.LinksPackage ix.LinksContainer) named (derive packages) := by
  rw [derive_eq]
  have hheard : List.Forall₂ (ix.LinksPackage ix.LinksContainer) named
      (mapContainers (fun t c ↦ (placedContainers packages).foldl (Container.hear t) c)
        packages) := by
    refine h.mapIdx fun p _ pkg hpkg ↦ List.Forall₂.mapIdx hpkg fun l _ lib hlib ↦ ?_
    refine ⟨hlib.info, hlib.dirName, hlib.containers.mapIdx fun i _ c hc ↦ ?_, hlib.topLevel⟩
    obtain ⟨_, _, htold⟩ := told_foldl_hear (.container p l i) c (placedContainers packages)
    simp only [htold]
    exact ⟨hc.info, hc.types, hc.members⟩
  exact hheard.mapIdx fun p _ pkg hpkg ↦ hpkg

/-- Tests that do not ask whom containers know of have the same results before and after. -/
theorem placesWhere_derive {test : Place × Container → Bool}
    (htest : ∀ place c told, Container.Told c told → test (place, told) = test (place, c))
    (packages : List Package) : placesWhere test (placedContainers (derive packages)) =
      placesWhere test (placedContainers packages) := by
  rw [placedContainers_derive, placesWhere, List.filter_map, List.map_map]
  refine congrArg (List.map _) (List.filter_congr fun entry _ ↦ ?_)
  exact htest _ _ _ (told_foldl_hear entry.1 entry.2 _)

theorem placesWhere_namesParent_derive (packages : List Package) (t : Place) :
    placesWhere (namesParent t) (placedContainers (derive packages)) =
      placesWhere (namesParent t) (placedContainers packages) := by
  refine placesWhere_derive (fun place c told htold ↦ ?_) packages
  obtain ⟨_, _, rfl⟩ := htold
  rfl

theorem placesWhere_namesExtended_derive (packages : List Package) (t : Place) :
    placesWhere (namesExtended t) (placedContainers (derive packages)) =
      placesWhere (namesExtended t) (placedContainers packages) := by
  refine placesWhere_derive (fun place c told htold ↦ ?_) packages
  obtain ⟨_, _, rfl⟩ := htold
  rfl

/-- Containers know of exactly those that name them. -/
def KnowEachOther (packages : List Package) : Prop :=
  ∀ entry ∈ placedContainers packages,
    entry.2.implementers = placesWhere (namesParent entry.1) (placedContainers packages) ∧
    entry.2.extensions = placesWhere (namesExtended entry.1) (placedContainers packages)

/-- Where nobody has become known to anybody yet, all know each other afterwards. -/
theorem knowEachOther_derive (hnew : ∀ entry ∈ placedContainers packages,
    entry.2.implementers = [] ∧ entry.2.extensions = []) : KnowEachOther (derive packages) := by
  intro entry hentry
  rw [placesWhere_namesParent_derive, placesWhere_namesExtended_derive]
  rw [placedContainers_derive] at hentry
  obtain ⟨old, hold, rfl⟩ := List.mem_map.mp hentry
  obtain ⟨himplementers, hextensions⟩ := hnew old hold
  constructor
  · rw [foldl_hear_implementers (nodup_placedContainers packages), himplementers, List.nil_append]
    rw [himplementers]
    exact fun known hknown ↦ absurd hknown List.not_mem_nil
  · rw [foldl_hear_extensions, hextensions, List.nil_append]

end ApiSite.Model
