import ApiSite.Proofs.Model.Entities
import ApiSite.Proofs.Model.Loading

/-!
# Who implements and extends a container

A container lists its implementers and the extensions on it. Nothing in a document says who they
are: they are found from the types that declarations are written with, after these have been linked.
`IsMadeFrom` and `IsExtensionOn` are what a container says itself. The main result,
`mem_implementers_iff`, is that the lists of a model that was read say the same from the other end.
-/

set_option autoImplicit false

namespace ApiSite.Model

variable {m : Model} {t e : Entity} {c : Container} {place : Place}

/-! ### What a container says -/

/-- A declaration is the target of the supertype of a container or of one of its interfaces and
mixins. -/
def Container.IsMadeFrom (c : Container) (place : Place) : Prop :=
  ∃ ref, (c.supertype = some ref ∨ ref ∈ c.interfaces ∨ ref ∈ c.mixins) ∧ ref.target = some place

/-- A container is an extension, and a declaration is the target of the type that it extends. -/
def Container.IsExtensionOn (c : Container) (place : Place) : Prop :=
  c.kind = "extension" ∧ ∃ ref, c.extendedType = some ref ∧ ref.target = some place

theorem mem_parents : place ∈ c.parents ↔ c.IsMadeFrom place := by
  simp only [Container.parents, Container.IsMadeFrom, List.mem_filterMap, List.mem_append,
    Option.mem_toList, or_assoc]

theorem extended?_eq_some_iff : c.extended? = some place ↔ c.IsExtensionOn place := by
  unfold Container.extended? Container.IsExtensionOn
  split
  · next hkind => simp [eq_of_beq hkind, Option.bind_eq_some_iff]
  · next hkind => simp_all

/-! ### The containers of a model -/

/-- The containers in the order of the document. -/
def containers (m : Model) : List Entity :=
  m.entities.flatMap fun p ↦ p.libraries.flatMap Entity.containers

theorem mem_containers_iff : e ∈ m.containers ↔ e.IsIn m ∧ ∃ c, e.node = .container c := by
  simp only [containers, List.mem_flatMap]
  constructor
  · rintro ⟨p, hp, l, hl, hc⟩
    exact ⟨.container hp hl hc, Entity.exists_node_of_mem_containers hc⟩
  · rintro ⟨he, c, hnode⟩
    exact he.of_container hnode

theorem map_placedContainers (m : Model) :
    (placedContainers m.packages).map (fun entry ↦ (entry.1, Node.container entry.2)) =
      m.containers.map fun e ↦ (e.place, e.node) := by
  simp only [placedContainers, containers, entities, Entity.libraries, Entity.containers,
    Entity.within, List.map_flatMap, List.flatMap_map, List.map_map, Function.comp_def]

theorem map_place_containers (m : Model) :
    m.containers.map Entity.place = (placedContainers m.packages).map Prod.fst := by
  have h := congrArg (List.map Prod.fst) (map_placedContainers m)
  simpa only [List.map_map, Function.comp_def] using h.symm

/-- The containers of a model as linking goes through them. -/
theorem mem_placedContainers_iff : (place, c) ∈ placedContainers m.packages ↔
    ∃ e : Entity, e.IsIn m ∧ e.place = place ∧ e.node = .container c := by
  have hmem : (place, c) ∈ placedContainers m.packages ↔
      (place, Node.container c) ∈ m.containers.map fun e ↦ (e.place, e.node) := by
    rw [← map_placedContainers]
    simp
  rw [hmem]
  simp only [List.mem_map, mem_containers_iff, Prod.mk.injEq]
  constructor
  · rintro ⟨e, ⟨he, -⟩, hplace, hnode⟩
    exact ⟨e, he, hplace, hnode⟩
  · rintro ⟨e, he, hplace, hnode⟩
    exact ⟨e, ⟨he, c, hnode⟩, hplace, hnode⟩

theorem place_mem_placesWhere_iff (he : e.IsIn m) (hnode : e.node = .container c)
    (test : Place × Container → Bool) :
    e.place ∈ placesWhere test (placedContainers m.packages) ↔ test (e.place, c) = true := by
  simp only [placesWhere, List.mem_map, List.mem_filter, Prod.exists]
  constructor
  · rintro ⟨place, d, ⟨hmem, htest⟩, rfl⟩
    obtain ⟨e', he', hplace, hnode'⟩ := mem_placedContainers_iff.mp hmem
    obtain rfl := he'.eq_of_place_eq he hplace
    obtain rfl := Node.container.inj (hnode'.symm.trans hnode)
    exact htest
  · exact fun htest ↦ ⟨_, c, ⟨mem_placedContainers_iff.mpr ⟨e, he, rfl, hnode⟩, htest⟩, rfl⟩

theorem namesParent_iff (he : e.IsIn m) (ht : t.IsIn m) :
    namesParent t.place (e.place, c) = true ↔ e ≠ t ∧ c.IsMadeFrom t.place := by
  rw [namesParent, decide_eq_true_eq, mem_parents, and_comm]
  refine and_congr_left' (not_congr ⟨fun hplace ↦ ?_, fun heq ↦ heq ▸ rfl⟩)
  exact he.eq_of_place_eq ht hplace.symm

theorem namesExtended_iff : namesExtended place (e.place, c) = true ↔ c.IsExtensionOn place := by
  rw [namesExtended, decide_eq_true_eq, extended?_eq_some_iff]

/-- **Containers know who names them.** In a model that was read, the implementers of a container
are the other containers that have it as the target of their supertype, of an interface or of a
mixin, and the extensions on it are those that have it as the target of the type they extend. Both
are listed in the order of the document, each of them once. -/
theorem mem_implementers_iff {doc : Value} (hm : (ofValue doc).1 = .ok m) (ht : t.IsIn m)
    (htype : t.node = .container c) :
    (∀ (e : Entity) (d : Container), e.IsIn m → e.node = .container d →
      (e.place ∈ c.implementers ↔ e ≠ t ∧ d.IsMadeFrom t.place) ∧
      (e.place ∈ c.extensions ↔ d.IsExtensionOn t.place)) ∧
    c.implementers.Nodup ∧ c.implementers.Sublist (m.containers.map Entity.place) ∧
    c.extensions.Nodup ∧ c.extensions.Sublist (m.containers.map Entity.place) := by
  obtain ⟨himplementers, hextensions⟩ :=
    knowEachOther_of_ofValue hm (t.place, c) (mem_placedContainers_iff.mpr ⟨t, ht, rfl, htype⟩)
  have hplaces := nodup_placedContainers m.packages
  have hsublist (test : Place × Container → Bool) := placesWhere_sublist test
    (placedContainers m.packages)
  simp only at himplementers hextensions
  rw [himplementers, hextensions, map_place_containers]
  refine ⟨fun e d he hnode ↦ ⟨?_, ?_⟩, hplaces.sublist (hsublist _), hsublist _,
    hplaces.sublist (hsublist _), hsublist _⟩
  · rw [place_mem_placesWhere_iff he hnode, namesParent_iff he ht]
  · rw [place_mem_placesWhere_iff he hnode, namesExtended_iff]

/-! ### Classes that name each other and themselves -/

/-- A class that names another one twice, this other one, which names both, and an extension. -/
def fruitDoc : Value := .record [("package", .record [("name", .text "kit"),
  ("libraries", .list [.record [("name", .text "fruit"), ("containers", .list [
    .record [("name", .text "Apple"), ("kind", .text "class"), ("supertype", .text "Fruit"),
      ("interfaces", .list [.text "Fruit"])],
    .record [("name", .text "Fruit"), ("kind", .text "class"), ("supertype", .text "Fruit"),
      ("mixins", .list [.text "Apple"])],
    .record [("name", .text "Peel"), ("kind", .text "extension"),
      ("extended_type", .text "Fruit")]])]])])]

def appleType : TypeRef := .mk "Apple" [] false .null .null (some (.container 0 0 0))

def fruitType : TypeRef := .mk "Fruit" [] false .null .null (some (.container 0 0 1))

def appleClass : Container :=
  { name := "Apple", kind := "class", supertype := some fruitType, interfaces := [fruitType],
    implementers := [.container 0 0 1] }

def fruitClass : Container :=
  { name := "Fruit", kind := "class", supertype := some fruitType, mixins := [appleType],
    implementers := [.container 0 0 0], extensions := [.container 0 0 2] }

def peelExtension : Container :=
  { name := "Peel", kind := "extension", extendedType := some fruitType }

def fruitLibrary : Library :=
  { name := "fruit", kind := "library", dirName := "fruit",
    containers := [appleClass, fruitClass, peelExtension] }

def kitPackage : Package := { name := "kit", kind := "package", libraries := [fruitLibrary] }

def fruitModel : Model := ⟨[kitPackage], [], "kit"⟩

/-- A container of the library. -/
def inFruit (i : ℕ) (c : Container) : Entity :=
  ⟨.container 0 0 i, .container c, [.library fruitLibrary, .package kitPackage]⟩

/-- The class has one implementer and one extension. -/
theorem mem_implementers_iff_fruit :
    (ofValue fruitDoc).1 = .ok fruitModel ∧ (inFruit 1 fruitClass).IsIn fruitModel ∧
    (inFruit 0 appleClass ≠ inFruit 1 fruitClass ∧ appleClass.IsMadeFrom (.container 0 0 1)) ∧
    peelExtension.IsExtensionOn (.container 0 0 1) := by
  have hread : (ofValue fruitDoc).1 = .ok fruitModel := rfl
  have hin (i : ℕ) (c : Container)
      (hplace : fruitModel.entity? (.container 0 0 i) = some (inFruit i c)) :
      (inFruit i c).IsIn fruitModel := isIn_of_entity? hplace
  have hfruit := hin 1 fruitClass rfl
  have hknown := (mem_implementers_iff hread hfruit rfl).1
  have happle := (hknown _ appleClass (hin 0 appleClass rfl) rfl).1
  have hpeel := (hknown _ peelExtension (hin 2 peelExtension rfl) rfl).2
  exact ⟨hread, hfruit, happle.mp List.mem_cons_self, hpeel.mp List.mem_cons_self⟩

end ApiSite.Model
