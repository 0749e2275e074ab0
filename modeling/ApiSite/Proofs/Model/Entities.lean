import ApiSite.Model.Entity
import Mathlib.Data.List.Basic

/-!
# The entities of a model

An entity carries the declarations around it, so it can be followed outward and inward without the
model. `Entity.IsIn` says where in a model an entity stands, with one case for each kind of
declaration. What is around an entity of a model and what it holds are entities of the model, and so
is whatever a name means there (`IsIn.of_lookUp?`): a scope is never left for another model. In its
model an entity is determined by its place (`IsIn.eq_of_place_eq`).
-/

set_option autoImplicit false

namespace List

theorem exists_index_of_mem_map_zipIdx {α β : Type} {f : α × ℕ → β} {l : List α} {b : β}
    (hb : b ∈ l.zipIdx.map f) : ∃ i a, (l.zipIdx.map f)[i]? = some b ∧ b = f (a, i) := by
  obtain ⟨⟨a, i⟩, ha, rfl⟩ := mem_map.mp hb
  refine ⟨i, a, ?_, rfl⟩
  rw [getElem?_map, getElem?_zipIdx, mem_zipIdx_iff_getElem?.mp ha]
  simp

end List

namespace ApiSite

open Model

namespace Entity

variable {m : Model} {p l c t x e found : Entity} {place : Place} {node : Node} {name : Text}
  {path : List Text} {accept : Entity → Bool}

/-! ### What entities hold -/

theorem exists_node_of_mem_libraries (hl : l ∈ p.libraries) : ∃ lib, l.node = .library lib := by
  unfold libraries at hl
  split at hl
  · obtain ⟨⟨lib, i⟩, -, rfl⟩ := List.mem_map.mp hl
    exact ⟨lib, rfl⟩
  · exact absurd hl List.not_mem_nil

theorem exists_node_of_mem_topics (he : e ∈ p.topics) : ∃ t, e.node = .topic t := by
  unfold topics at he
  split at he
  · obtain ⟨⟨t, i⟩, -, rfl⟩ := List.mem_map.mp he
    exact ⟨t, rfl⟩
  · exact absurd he List.not_mem_nil

theorem exists_node_of_mem_containers (he : e ∈ l.containers) : ∃ c, e.node = .container c := by
  unfold containers at he
  split at he
  · obtain ⟨⟨c, i⟩, -, rfl⟩ := List.mem_map.mp he
    exact ⟨c, rfl⟩
  · exact absurd he List.not_mem_nil

theorem exists_node_of_mem_topLevel (he : e ∈ l.topLevel) : ∃ t, e.node = .topLevel t := by
  unfold topLevel at he
  split at he
  · obtain ⟨⟨t, i⟩, -, rfl⟩ := List.mem_map.mp he
    exact ⟨t, rfl⟩
  · exact absurd he List.not_mem_nil

theorem exists_node_of_mem_members (he : e ∈ l.members) : ∃ x, e.node = .member x := by
  unfold members at he
  split at he
  · obtain ⟨⟨x, i⟩, -, rfl⟩ := List.mem_map.mp he
    exact ⟨x, rfl⟩
  · exact absurd he List.not_mem_nil

/-- What holds members is a container. -/
theorem exists_container_of_mem_members (hx : x ∈ c.members) :
    ∃ cont, c.node = .container cont := by
  unfold members at hx
  split at hx
  · next cont _ hnode => exact ⟨_, hnode⟩
  · exact absurd hx List.not_mem_nil

/-- What a library holds is a container or a top-level element. -/
theorem exists_node_of_mem_declarations (he : e ∈ l.containers ++ l.topLevel) :
    (∃ c, e.node = .container c) ∨ ∃ t, e.node = .topLevel t :=
  (List.mem_append.mp he).imp exists_node_of_mem_containers exists_node_of_mem_topLevel

/-! ### What declarations hold -/

theorem exists_mem_packages (hp : p ∈ m.entities) : ∃ pkg ∈ m.packages, p.node = .package pkg := by
  obtain ⟨⟨pkg, i⟩, hpkg, rfl⟩ := List.mem_map.mp hp
  exact ⟨pkg, List.fst_mem_of_mem_zipIdx hpkg, rfl⟩

theorem exists_mem_libraries {pkg : Package} (hl : l ∈ p.libraries)
    (hnode : p.node = .package pkg) : ∃ lib ∈ pkg.libraries, l.node = .library lib := by
  unfold libraries at hl
  split at hl
  · next hpkg =>
    obtain rfl := Node.package.inj (hpkg.symm.trans hnode)
    obtain ⟨⟨lib, i⟩, hlib, rfl⟩ := List.mem_map.mp hl
    exact ⟨lib, List.fst_mem_of_mem_zipIdx hlib, rfl⟩
  · exact absurd hl List.not_mem_nil

theorem exists_mem_containers {lib : Library} (hc : c ∈ l.containers)
    (hnode : l.node = .library lib) : ∃ cont ∈ lib.containers, c.node = .container cont := by
  unfold containers at hc
  split at hc
  · next hlib =>
    obtain rfl := Node.library.inj (hlib.symm.trans hnode)
    obtain ⟨⟨cont, i⟩, hcont, rfl⟩ := List.mem_map.mp hc
    exact ⟨cont, List.fst_mem_of_mem_zipIdx hcont, rfl⟩
  · exact absurd hc List.not_mem_nil

theorem exists_mem_topLevel {lib : Library} (ht : t ∈ l.topLevel) (hnode : l.node = .library lib) :
    ∃ element ∈ lib.topLevel, t.node = .topLevel element := by
  unfold topLevel at ht
  split at ht
  · next hlib =>
    obtain rfl := Node.library.inj (hlib.symm.trans hnode)
    obtain ⟨⟨element, i⟩, helement, rfl⟩ := List.mem_map.mp ht
    exact ⟨element, List.fst_mem_of_mem_zipIdx helement, rfl⟩
  · exact absurd ht List.not_mem_nil

theorem exists_mem_members {cont : Container} (hx : x ∈ c.members)
    (hnode : c.node = .container cont) : ∃ member ∈ cont.members, x.node = .member member := by
  unfold members at hx
  split at hx
  · next hcont =>
    obtain rfl := Node.container.inj (hcont.symm.trans hnode)
    obtain ⟨⟨member, i⟩, hmember, rfl⟩ := List.mem_map.mp hx
    exact ⟨member, List.fst_mem_of_mem_zipIdx hmember, rfl⟩
  · exact absurd hx List.not_mem_nil

/-! ### What is around entities -/

theorem parent?_within (hplace : place.enclosing = e.place) :
    (e.within place node).parent? = some e := by
  rw [within, parent?, hplace]

theorem parent?_of_mem_libraries (hl : l ∈ p.libraries) : l.parent? = some p := by
  unfold libraries at hl
  split at hl
  · next hplace _ =>
    obtain ⟨⟨lib, i⟩, -, rfl⟩ := List.mem_map.mp hl
    exact parent?_within hplace.symm
  · exact absurd hl List.not_mem_nil

theorem parent?_of_mem_topics (ht : t ∈ p.topics) : t.parent? = some p := by
  unfold topics at ht
  split at ht
  · next hplace _ =>
    obtain ⟨⟨topic, i⟩, -, rfl⟩ := List.mem_map.mp ht
    exact parent?_within hplace.symm
  · exact absurd ht List.not_mem_nil

theorem parent?_of_mem_containers (hc : c ∈ l.containers) : c.parent? = some l := by
  unfold containers at hc
  split at hc
  · next hplace _ =>
    obtain ⟨⟨cont, i⟩, -, rfl⟩ := List.mem_map.mp hc
    exact parent?_within hplace.symm
  · exact absurd hc List.not_mem_nil

theorem parent?_of_mem_topLevel (ht : t ∈ l.topLevel) : t.parent? = some l := by
  unfold topLevel at ht
  split at ht
  · next hplace _ =>
    obtain ⟨⟨element, i⟩, -, rfl⟩ := List.mem_map.mp ht
    exact parent?_within hplace.symm
  · exact absurd ht List.not_mem_nil

/-- A member lies in its container. -/
theorem parent?_of_mem_members (hx : x ∈ c.members) : x.parent? = some c := by
  unfold members at hx
  split at hx
  · next hplace _ =>
    obtain ⟨⟨member, i⟩, -, rfl⟩ := List.mem_map.mp hx
    exact parent?_within hplace.symm
  · exact absurd hx List.not_mem_nil

theorem library?_of_mem_libraries (hl : l ∈ p.libraries) : l.library? = some l := by
  obtain ⟨lib, hnode⟩ := exists_node_of_mem_libraries hl
  rw [library?, hnode]

/-- A declaration lies in its library. -/
theorem parent?_of_mem_declarations (he : e ∈ l.containers ++ l.topLevel) :
    e.parent? = some l :=
  (List.mem_append.mp he).elim parent?_of_mem_containers parent?_of_mem_topLevel

theorem library?_of_mem_declarations (he : e ∈ l.containers ++ l.topLevel) :
    e.library? = some l := by
  rw [← parent?_of_mem_declarations he]
  rcases exists_node_of_mem_declarations he with ⟨c, hnode⟩ | ⟨t, hnode⟩ <;> rw [library?, hnode]

theorem library?_of_mem_members (hc : c ∈ l.containers) (hx : x ∈ c.members) :
    x.library? = some l := by
  obtain ⟨member, hnode⟩ := exists_node_of_mem_members hx
  rw [library?, hnode]
  simp [parent?_of_mem_members hx, parent?_of_mem_containers hc]

/-! ### Entities of a model -/

/-- An entity stands somewhere in a model. -/
inductive IsIn (m : Model) : Entity → Prop
  | package {p : Entity} (hp : p ∈ m.entities) : IsIn m p
  | topic {p t : Entity} (hp : p ∈ m.entities) (ht : t ∈ p.topics) : IsIn m t
  | library {p l : Entity} (hp : p ∈ m.entities) (hl : l ∈ p.libraries) : IsIn m l
  | container {p l c : Entity} (hp : p ∈ m.entities) (hl : l ∈ p.libraries)
    (hc : c ∈ l.containers) : IsIn m c
  | topLevel {p l t : Entity} (hp : p ∈ m.entities) (hl : l ∈ p.libraries)
    (ht : t ∈ l.topLevel) : IsIn m t
  | member {p l c x : Entity} (hp : p ∈ m.entities) (hl : l ∈ p.libraries)
    (hc : c ∈ l.containers) (hx : x ∈ c.members) : IsIn m x

theorem isIn_iff_mem_allEntities : e.IsIn m ↔ e ∈ m.allEntities := by
  have hlibrary {l : Entity} : e ∈ libraryEntities l ↔
      e = l ∨ (∃ c ∈ l.containers, e = c ∨ e ∈ c.members) ∨ e ∈ l.topLevel := by
    simp only [libraryEntities, List.cons_append, List.mem_cons, List.mem_append,
      List.mem_flatMap]
  simp only [allEntities, List.mem_flatMap, List.cons_append, List.mem_cons, List.mem_append,
    hlibrary]
  constructor
  · intro h
    cases h with
    | package hp => exact ⟨e, hp, Or.inl rfl⟩
    | topic hp ht => exact ⟨_, hp, Or.inr (Or.inr ht)⟩
    | library hp hl => exact ⟨_, hp, Or.inr (Or.inl ⟨e, hl, Or.inl rfl⟩)⟩
    | container hp hl hc =>
      exact ⟨_, hp, Or.inr (Or.inl ⟨_, hl, Or.inr (Or.inl ⟨e, hc, Or.inl rfl⟩)⟩)⟩
    | topLevel hp hl ht => exact ⟨_, hp, Or.inr (Or.inl ⟨_, hl, Or.inr (Or.inr ht)⟩)⟩
    | member hp hl hc hx =>
      exact ⟨_, hp, Or.inr (Or.inl ⟨_, hl, Or.inr (Or.inl ⟨_, hc, Or.inr hx⟩)⟩)⟩
  · rintro ⟨p, hp, rfl | ⟨l, hl, rfl | ⟨c, hc, rfl | hx⟩ | ht⟩ | ht⟩
    · exact .package hp
    · exact .library hp hl
    · exact .container hp hl hc
    · exact .member hp hl hc hx
    · exact .topLevel hp hl ht
    · exact .topic hp ht

theorem parent?_of_mem_entities (hp : p ∈ m.entities) : p.parent? = none := by
  obtain ⟨⟨pkg, i⟩, -, rfl⟩ := List.mem_map.mp hp
  rfl

theorem exists_node_of_mem_entities (hp : p ∈ m.entities) : ∃ pkg, p.node = .package pkg := by
  obtain ⟨⟨pkg, i⟩, -, rfl⟩ := List.mem_map.mp hp
  exact ⟨pkg, rfl⟩

/-- What is around an entity of a model is an entity of the model. -/
theorem IsIn.parent (he : e.IsIn m) (hparent : e.parent? = some p) : p.IsIn m := by
  cases he with
  | package hp =>
    rw [parent?_of_mem_entities hp] at hparent
    cases hparent
  | topic hp ht =>
    obtain rfl := Option.some.inj ((parent?_of_mem_topics ht).symm.trans hparent)
    exact .package hp
  | library hp hl =>
    obtain rfl := Option.some.inj ((parent?_of_mem_libraries hl).symm.trans hparent)
    exact .package hp
  | container hp hl hc =>
    obtain rfl := Option.some.inj ((parent?_of_mem_containers hc).symm.trans hparent)
    exact .library hp hl
  | topLevel hp hl ht =>
    obtain rfl := Option.some.inj ((parent?_of_mem_topLevel ht).symm.trans hparent)
    exact .library hp hl
  | member hp hl hc hx =>
    obtain rfl := Option.some.inj ((parent?_of_mem_members hx).symm.trans hparent)
    exact .container hp hl hc

/-- Where an entity of a model stands follows from what it is. -/
theorem IsIn.of_package {pkg : Package} (he : e.IsIn m) (hnode : e.node = .package pkg) :
    e ∈ m.entities := by
  cases he <;> grind [exists_node_of_mem_topics, exists_node_of_mem_libraries,
    exists_node_of_mem_containers, exists_node_of_mem_topLevel, exists_node_of_mem_members]

theorem IsIn.of_library {lib : Library} (he : e.IsIn m) (hnode : e.node = .library lib) :
    ∃ p ∈ m.entities, e ∈ p.libraries := by
  cases he <;> grind [exists_node_of_mem_entities, exists_node_of_mem_topics,
    exists_node_of_mem_containers, exists_node_of_mem_topLevel, exists_node_of_mem_members]

theorem IsIn.of_container {cont : Container} (he : e.IsIn m) (hnode : e.node = .container cont) :
    ∃ p ∈ m.entities, ∃ l ∈ p.libraries, e ∈ l.containers := by
  cases he <;> grind [exists_node_of_mem_entities, exists_node_of_mem_topics,
    exists_node_of_mem_libraries, exists_node_of_mem_topLevel, exists_node_of_mem_members]

/-! ### What names mean -/

theorem descend?_singleton : e.descend? [name] = e.child? name := Option.bind_fun_some _

/-- A path is looked up in what an entity holds, and where nothing there is accepted, from the
entity around it. -/
theorem lookUp?_cons (hname : name ≠ []) : e.lookUp? (name :: path) accept =
    ((e.descend? (name :: path)).filter accept).or
      (e.parent?.bind fun outer ↦ outer.lookUp? (name :: path) accept) := by
  obtain ⟨place, node, outer⟩ := e
  obtain ⟨c, rest, rfl⟩ := List.exists_cons_of_ne_nil hname
  cases outer with
  | nil => exact (Option.or_none).symm
  | cons next outer => rfl

theorem mem_members_of_memberNamed? (h : e.memberNamed? name = some found) :
    found ∈ e.members := by
  unfold memberNamed? at h
  rcases Option.or_eq_some_iff.mp h with h | ⟨-, h⟩ <;>
    exact List.mem_of_mem_filter (List.mem_of_mem_filter (List.mem_of_getLast? h))

theorem mem_of_declarationNamed? (h : e.declarationNamed? name = some found) :
    found ∈ e.containers ∨ found ∈ e.topLevel := by
  unfold declarationNamed? at h
  rcases Option.or_eq_some_iff.mp h with h | ⟨-, h⟩
  · exact Or.inl (List.mem_of_mem_filter (List.mem_of_getLast? h))
  · exact Or.inr (List.mem_of_find?_eq_some h)

/-- What an entity of a model holds is an entity of the model. -/
theorem IsIn.of_child? (he : e.IsIn m) (h : e.child? name = some found) : found.IsIn m := by
  unfold child? at h
  split at h
  · next hnode =>
    obtain ⟨p, hp, l, hl, hc⟩ := he.of_container hnode
    exact .member hp hl hc (mem_members_of_memberNamed? h)
  · next hnode =>
    obtain ⟨p, hp, hl⟩ := he.of_library hnode
    rcases mem_of_declarationNamed? h with hc | ht
    · exact .container hp hl hc
    · exact .topLevel hp hl ht
  · next hnode =>
    have hp := he.of_package hnode
    rcases Option.or_eq_some_iff.mp h with h | ⟨-, h⟩
    · obtain ⟨l, hl, hfound⟩ := List.exists_of_findSome?_eq_some h
      rcases mem_of_declarationNamed? hfound with hc | ht
      · exact .container hp hl hc
      · exact .topLevel hp hl ht
    · exact .library hp (List.mem_of_find?_eq_some h)
  · cases h

theorem IsIn.of_descend? (he : e.IsIn m) (h : e.descend? path = some found) : found.IsIn m := by
  induction path generalizing e with
  | nil =>
    obtain rfl := Option.some.inj h
    exact he
  | cons name path ih =>
    obtain ⟨child, hchild, hrest⟩ := Option.bind_eq_some_iff.mp h
    exact ih (he.of_child? hchild) hrest

/-- What a path of names means for an entity of a model is an entity of the model. -/
theorem IsIn.of_lookUp? (he : e.IsIn m) (h : e.lookUp? path accept = some found) :
    found.IsIn m := by
  have hscopes (outer : List Node) : ∀ (place : Place) (node : Node),
      IsIn m ⟨place, node, outer⟩ → lookUpFrom accept path place node outer = some found →
        found.IsIn m := by
    induction outer with
    | nil =>
      intro place node hscope hfound
      exact hscope.of_descend? (Option.filter_eq_some_iff.mp hfound).1
    | cons next outer ih =>
      intro place node hscope hfound
      rcases Option.or_eq_some_iff.mp hfound with hfound | ⟨-, hfound⟩
      · exact hscope.of_descend? (Option.filter_eq_some_iff.mp hfound).1
      · exact ih place.enclosing next (hscope.parent rfl) hfound
  unfold lookUp? at h
  split at h
  · cases h
  · cases h
  · exact hscopes e.outer e.place e.node he h

end Entity

/-! ### Entities at places -/

/-- The entity at a place is an entity of the model. -/
theorem Model.isIn_of_entity? {m : Model} {e : Entity} {place : Place}
    (h : m.entity? place = some e) : e.IsIn m := by
  unfold Model.entity? at h
  cases place <;> simp only [Option.bind_eq_bind, Option.bind_eq_some_iff] at h
  case package => exact .package (List.mem_of_getElem? h)
  case topic =>
    obtain ⟨p, hp, ht⟩ := h
    exact .topic (List.mem_of_getElem? hp) (List.mem_of_getElem? ht)
  case library =>
    obtain ⟨p, hp, hl⟩ := h
    exact .library (List.mem_of_getElem? hp) (List.mem_of_getElem? hl)
  case container =>
    obtain ⟨p, hp, l, hl, hc⟩ := h
    exact .container (List.mem_of_getElem? hp) (List.mem_of_getElem? hl) (List.mem_of_getElem? hc)
  case topLevel =>
    obtain ⟨p, hp, l, hl, ht⟩ := h
    exact .topLevel (List.mem_of_getElem? hp) (List.mem_of_getElem? hl) (List.mem_of_getElem? ht)
  case member =>
    obtain ⟨p, hp, l, hl, c, hc, hx⟩ := h
    exact .member (List.mem_of_getElem? hp) (List.mem_of_getElem? hl) (List.mem_of_getElem? hc)
      (List.mem_of_getElem? hx)

namespace Entity

variable {m : Model} {p l c t x e e' : Entity}

theorem exists_index_of_mem_entities (hp : p ∈ m.entities) :
    ∃ i, p.place = .package i ∧ m.entities[i]? = some p := by
  obtain ⟨i, pkg, hi, rfl⟩ := List.exists_index_of_mem_map_zipIdx hp
  exact ⟨i, rfl, hi⟩

theorem exists_index_of_mem_libraries (hl : l ∈ p.libraries) :
    ∃ i j, p.place = .package i ∧ l.place = .library i j ∧ p.libraries[j]? = some l := by
  unfold libraries at hl ⊢
  split at hl
  · next hplace hnode =>
    obtain ⟨i, a, hi, rfl⟩ := List.exists_index_of_mem_map_zipIdx hl
    exact ⟨_, i, hplace, rfl, by simpa only [hplace, hnode] using hi⟩
  · exact absurd hl List.not_mem_nil

theorem exists_index_of_mem_topics (ht : t ∈ p.topics) :
    ∃ i j, p.place = .package i ∧ t.place = .topic i j ∧ p.topics[j]? = some t := by
  unfold topics at ht ⊢
  split at ht
  · next hplace hnode =>
    obtain ⟨i, a, hi, rfl⟩ := List.exists_index_of_mem_map_zipIdx ht
    exact ⟨_, i, hplace, rfl, by simpa only [hplace, hnode] using hi⟩
  · exact absurd ht List.not_mem_nil

theorem exists_index_of_mem_containers (hc : c ∈ l.containers) :
    ∃ i j k, l.place = .library i j ∧ c.place = .container i j k ∧ l.containers[k]? = some c := by
  unfold containers at hc ⊢
  split at hc
  · next hplace hnode =>
    obtain ⟨i, a, hi, rfl⟩ := List.exists_index_of_mem_map_zipIdx hc
    exact ⟨_, _, i, hplace, rfl, by simpa only [hplace, hnode] using hi⟩
  · exact absurd hc List.not_mem_nil

theorem exists_index_of_mem_topLevel (ht : t ∈ l.topLevel) :
    ∃ i j k, l.place = .library i j ∧ t.place = .topLevel i j k ∧ l.topLevel[k]? = some t := by
  unfold topLevel at ht ⊢
  split at ht
  · next hplace hnode =>
    obtain ⟨i, a, hi, rfl⟩ := List.exists_index_of_mem_map_zipIdx ht
    exact ⟨_, _, i, hplace, rfl, by simpa only [hplace, hnode] using hi⟩
  · exact absurd ht List.not_mem_nil

theorem exists_index_of_mem_members (hx : x ∈ c.members) :
    ∃ i j k n, c.place = .container i j k ∧ x.place = .member i j k n ∧ c.members[n]? = some x := by
  unfold members at hx ⊢
  split at hx
  · next hplace hnode =>
    obtain ⟨i, a, hi, rfl⟩ := List.exists_index_of_mem_map_zipIdx hx
    exact ⟨_, _, _, i, hplace, rfl, by simpa only [hplace, hnode] using hi⟩
  · exact absurd hx List.not_mem_nil

/-- An entity of a model is the one at its place. -/
theorem IsIn.entity?_place (he : e.IsIn m) : m.entity? e.place = some e := by
  cases he with
  | package hp =>
    obtain ⟨i, hplace, hi⟩ := exists_index_of_mem_entities hp
    rw [hplace]
    exact hi
  | topic hp ht =>
    obtain ⟨i, hplace, hi⟩ := exists_index_of_mem_entities hp
    obtain ⟨i', j, hplace', htplace, hj⟩ := exists_index_of_mem_topics ht
    obtain rfl := Place.package.inj (hplace.symm.trans hplace')
    simp [Model.entity?, htplace, hi, hj]
  | library hp hl =>
    obtain ⟨i, hplace, hi⟩ := exists_index_of_mem_entities hp
    obtain ⟨i', j, hplace', hlplace, hj⟩ := exists_index_of_mem_libraries hl
    obtain rfl := Place.package.inj (hplace.symm.trans hplace')
    simp [Model.entity?, hlplace, hi, hj]
  | container hp hl hc =>
    obtain ⟨i, hplace, hi⟩ := exists_index_of_mem_entities hp
    obtain ⟨i', j, hplace', hlplace, hj⟩ := exists_index_of_mem_libraries hl
    obtain ⟨i₂, j', k, hlplace', hcplace, hk⟩ := exists_index_of_mem_containers hc
    grind [Model.entity?]
  | topLevel hp hl ht =>
    obtain ⟨i, hplace, hi⟩ := exists_index_of_mem_entities hp
    obtain ⟨i', j, hplace', hlplace, hj⟩ := exists_index_of_mem_libraries hl
    obtain ⟨i₂, j', k, hlplace', htplace, hk⟩ := exists_index_of_mem_topLevel ht
    grind [Model.entity?]
  | member hp hl hc hx =>
    obtain ⟨i, hplace, hi⟩ := exists_index_of_mem_entities hp
    obtain ⟨i', j, hplace', hlplace, hj⟩ := exists_index_of_mem_libraries hl
    obtain ⟨i₂, j', k, hlplace', hcplace, hk⟩ := exists_index_of_mem_containers hc
    obtain ⟨i₃, j₃, k', n, hcplace', hxplace, hn⟩ := exists_index_of_mem_members hx
    grind [Model.entity?]

theorem IsIn.eq_of_place_eq (he : e.IsIn m) (he' : e'.IsIn m) (hplace : e.place = e'.place) :
    e = e' :=
  Option.some.inj (he.entity?_place.symm.trans (hplace ▸ he'.entity?_place))

end Entity

end ApiSite
