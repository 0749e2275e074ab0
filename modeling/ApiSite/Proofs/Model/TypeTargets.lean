import ApiSite.Proofs.Model.Entities
import ApiSite.Proofs.Model.Loading

/-!
# What types link to

A type that a document gives no target for is looked up by its name: first among the qualified names
of all declarations, and then among the names of containers and type definitions. Only the second
search asks what it finds. So a name that is nobody's qualified name links to a type or not at all,
and to one exactly if it is the only one of this name; but the name of a library is its qualified
name as well, and a type of this name links to the library.

In a model that was read all types have the targets that its own declarations give
(`target_eq_of_mem_typeRefs`). The main result is `target_isType_iff`.
-/

set_option autoImplicit false

/-! ### Lists item by item -/

theorem List.Forall₂.map_zipIdx_eq {α β γ : Type} {R : α → β → Prop} {f : α × ℕ → γ}
    {g : β × ℕ → γ} {as : List α} {bs : List β} (h : Forall₂ R as bs)
    (hfg : ∀ a b i, R a b → f (a, i) = g (b, i)) (n : ℕ := 0) :
    (as.zipIdx n).map f = (bs.zipIdx n).map g := by
  induction h generalizing n with
  | nil => rfl
  | cons hfirst _ ih =>
    rw [zipIdx_cons, zipIdx_cons, map_cons, map_cons, hfg _ _ n hfirst, ih]

namespace ApiSite

open Model

/-- A declaration as the index knows it. -/
def Entity.named (e : Entity) : Named := ⟨e.qualifiedName, e.name, e.kind, e.place⟩

/-- Containers and type definitions. -/
def Entity.isType (e : Entity) : Bool :=
  match e.node with
  | .container _ => true
  | .topLevel t => t.kind == "typedef"
  | _ => false

namespace Model

variable {m : Model} {e : Entity} {ref : TypeRef} {named : List NamedPackage}

/-! ### The declarations of a model -/

/-- What types can name, in the order of the document: libraries with their containers and top-level
elements. -/
def declarations (m : Model) : List Entity :=
  m.entities.flatMap fun p ↦ p.libraries.flatMap fun l ↦ l :: l.containers ++ l.topLevel

/-- The types that a declaration is written with, and those that these are made from. -/
def Node.types : Node → List TypeRef
  | .container c => c.types
  | .topLevel t => t.types
  | .member x => x.toSigned.types
  | _ => []

/-- All types that the declarations of a model are written with, nested ones included. -/
def typeRefs (m : Model) : List TypeRef :=
  (m.allEntities.flatMap fun e ↦ e.node.types).flatMap TypeRef.parts

theorem indexLibrary_eq {ix : Index} {l : NamedLibrary} {l' : Library}
    (h : ix.LinksLibrary ix.LinksContainer l l') (i j : ℕ) (pkg : Package) :
    indexLibrary i j l =
      let lib : Entity := ⟨.library i j, .library l', [.package pkg]⟩
      (lib :: lib.containers ++ lib.topLevel).map Entity.named := by
  rw [List.map_append, List.map_cons, Entity.containers, Entity.topLevel, List.map_map,
    List.map_map, indexLibrary]
  refine congrArg₂ _ (congrArg₂ List.cons ?_ ?_) ?_
  · rw [← h.info]
    rfl
  · refine h.containers.map_zipIdx_eq fun c c' k hc ↦ ?_
    simp only [← h.info, ← hc.info]
    rfl
  · refine h.topLevel.map_zipIdx_eq fun t t' k ht ↦ ?_
    simp only [← h.info, ← ht.info]
    rfl

/-- Linking looks names up among the declarations of the model that comes out. -/
theorem indexPackages_eq {ix : Index}
    (h : List.Forall₂ (ix.LinksPackage ix.LinksContainer) named m.packages) :
    indexPackages named = m.declarations.map Entity.named := by
  simp only [indexPackages, declarations, entities, List.flatMap_map, List.map_flatMap]
  refine congrArg List.flatten (h.map_zipIdx_eq fun p p' i hp ↦ ?_)
  rw [Entity.libraries, List.flatMap_map]
  refine congrArg List.flatten (List.Forall₂.map_zipIdx_eq hp fun l l' j hl ↦ ?_)
  exact indexLibrary_eq hl i j p'

/-! ### The types of a model -/

section

variable {ix : Index}

/-- The libraries of a model that is linked are linked. -/
theorem exists_linksLibrary
    (h : List.Forall₂ (ix.LinksPackage ix.LinksContainer) named m.packages) {p l : Entity}
    {lib : Library} (hp : p ∈ m.entities) (hl : l ∈ p.libraries) (hnode : l.node = .library lib) :
    ∃ lib₀, ix.LinksLibrary ix.LinksContainer lib₀ lib := by
  obtain ⟨pkg, hpkg, hpnode⟩ := Entity.exists_mem_packages hp
  obtain ⟨lib', hlib, hlnode⟩ := Entity.exists_mem_libraries hl hpnode
  obtain rfl := Node.library.inj (hlnode.symm.trans hnode)
  obtain ⟨pkg₀, -, hpkg₀⟩ := h.exists_left hpkg
  obtain ⟨lib₀, -, hlib₀⟩ := hpkg₀.exists_left hlib
  exact ⟨lib₀, hlib₀⟩

theorem resolvesAll_of_isIn
    (h : List.Forall₂ (ix.LinksPackage ix.LinksContainer) named m.packages) (he : e.IsIn m) :
    ix.ResolvesAll e.node.types := by
  have hnone {t : TypeRef} (ht : t ∈ ([] : List TypeRef)) : ix.Resolves t :=
    absurd ht List.not_mem_nil
  cases he with
  | package hp =>
    obtain ⟨pkg, hnode⟩ := Entity.exists_node_of_mem_entities hp
    rw [hnode]
    exact fun t ↦ hnone
  | topic hp ht =>
    obtain ⟨topic, hnode⟩ := Entity.exists_node_of_mem_topics ht
    rw [hnode]
    exact fun t ↦ hnone
  | library hp hl =>
    obtain ⟨lib, hnode⟩ := Entity.exists_node_of_mem_libraries hl
    rw [hnode]
    exact fun t ↦ hnone
  | container hp hl hc =>
    obtain ⟨lib, hlnode⟩ := Entity.exists_node_of_mem_libraries hl
    obtain ⟨lib₀, hlib⟩ := exists_linksLibrary h hp hl hlnode
    obtain ⟨c, hc, hnode⟩ := Entity.exists_mem_containers hc hlnode
    obtain ⟨c₀, -, hlinks⟩ := hlib.containers.exists_left hc
    rw [hnode]
    exact hlinks.types
  | topLevel hp hl ht =>
    obtain ⟨lib, hlnode⟩ := Entity.exists_node_of_mem_libraries hl
    obtain ⟨lib₀, hlib⟩ := exists_linksLibrary h hp hl hlnode
    obtain ⟨t, ht, hnode⟩ := Entity.exists_mem_topLevel ht hlnode
    obtain ⟨t₀, -, hlinks⟩ := hlib.topLevel.exists_left ht
    rw [hnode]
    exact hlinks.types
  | member hp hl hc hx =>
    obtain ⟨lib, hlnode⟩ := Entity.exists_node_of_mem_libraries hl
    obtain ⟨lib₀, hlib⟩ := exists_linksLibrary h hp hl hlnode
    obtain ⟨c, hc, hcnode⟩ := Entity.exists_mem_containers hc hlnode
    obtain ⟨c₀, -, hlinksContainer⟩ := hlib.containers.exists_left hc
    obtain ⟨x, hx, hnode⟩ := Entity.exists_mem_members hx hcnode
    obtain ⟨x₀, -, hlinks⟩ := hlinksContainer.members.exists_left hx
    rw [hnode]
    exact hlinks.types

end

/-- Types have the targets that the declarations of their own model give. -/
theorem target_of_mem_typeRefs {doc : Value} (hm : (ofValue doc).1 = .ok m)
    (href : ref ∈ m.typeRefs) :
    Index.target (m.declarations.map Entity.named) ref.name ref.wanted = .ok ref.target := by
  obtain ⟨named, -, hlinks⟩ := exists_links_of_ofValue hm
  obtain ⟨t, ht, hpart⟩ := List.mem_flatMap.mp href
  obtain ⟨e, he, ht⟩ := List.mem_flatMap.mp ht
  rw [← indexPackages_eq hlinks]
  exact resolvesAll_of_isIn hlinks (Entity.isIn_iff_mem_allEntities.mpr he) t ht ref hpart

/-! ### What a name links to -/

theorem isIn_of_mem_declarations (he : e ∈ m.declarations) : e.IsIn m := by
  obtain ⟨p, hp, he⟩ := List.mem_flatMap.mp he
  obtain ⟨l, hl, he⟩ := List.mem_flatMap.mp he
  rw [List.cons_append, List.mem_cons, List.mem_append] at he
  rcases he with rfl | hc | ht
  · exact .library hp hl
  · exact .container hp hl hc
  · exact .topLevel hp hl ht

/-- The index knows types by their places and kinds. Libraries, whose kind may be any, have their
names as qualified names. -/
theorem isType_eq_of_mem_declarations (he : e ∈ m.declarations) (hname : e.qualifiedName ≠ e.name) :
    e.isType = (e.place.isContainer || e.kind == "typedef") := by
  obtain ⟨p, hp, he⟩ := List.mem_flatMap.mp he
  obtain ⟨l, hl, he⟩ := List.mem_flatMap.mp he
  rw [List.cons_append, List.mem_cons, List.mem_append] at he
  rcases he with rfl | hc | ht
  · obtain ⟨lib, hnode⟩ := Entity.exists_node_of_mem_libraries hl
    refine absurd ?_ hname
    rw [Entity.qualifiedName, Entity.name, Entity.info, hnode, Entity.qualify]
    rfl
  · obtain ⟨c, hnode⟩ := Entity.exists_node_of_mem_containers hc
    obtain ⟨i, j, k, -, hplace, -⟩ := Entity.exists_index_of_mem_containers hc
    rw [Entity.isType, hnode, hplace]
    rfl
  · obtain ⟨t, hnode⟩ := Entity.exists_node_of_mem_topLevel ht
    obtain ⟨i, j, k, -, hplace, -⟩ := Entity.exists_index_of_mem_topLevel ht
    rw [Entity.isType, hplace, Entity.kind, Entity.info, hnode]
    rfl

/-- The declarations that the index takes for types of a name are those that are, where the name is
nobody's qualified name. -/
theorem types_map_named {name : Text} (hname : ∀ e ∈ m.declarations, e.qualifiedName ≠ name) :
    Index.types (m.declarations.map Entity.named) name =
      (m.declarations.filter fun e ↦ e.isType && e.name == name).map Entity.named := by
  rw [Index.types, List.filter_map]
  refine congrArg (List.map _) (List.filter_congr fun e he ↦ ?_)
  by_cases heq : e.name = name
  · rw [isType_eq_of_mem_declarations he (heq ▸ hname e he), Bool.and_comm]
    rfl
  · rw [beq_eq_false_iff_ne.mpr heq, Bool.and_false]
    exact Bool.and_eq_false_imp.mpr fun htrue ↦ absurd (eq_of_beq htrue) heq

theorem qualified?_map_named (name : Text) :
    Index.qualified? (m.declarations.map Entity.named) name =
      (m.declarations.find? fun e ↦ e.qualifiedName == name).map Entity.place := by
  rw [Index.qualified?, List.find?_map, Option.map_map]
  rfl

theorem find?_map_named_of_qualified {name : Text}
    (he : (m.declarations.find? fun e ↦ e.qualifiedName == name) = some e) :
    Index.find? (m.declarations.map Entity.named) name = some e.place := by
  rw [Index.find?, qualified?_map_named, he]
  rfl

theorem find?_map_named_eq_some_iff {name : Text} {place : Place}
    (hname : ∀ e ∈ m.declarations, e.qualifiedName ≠ name) :
    Index.find? (m.declarations.map Entity.named) name = some place ↔
      ∃ e, (m.declarations.filter fun e ↦ e.isType && e.name == name) = [e] ∧ e.place = place := by
  have hnone : (m.declarations.find? fun e ↦ e.qualifiedName == name) = none :=
    List.find?_eq_none.mpr fun e he ↦ by simpa using hname e he
  rw [Index.find?, qualified?_map_named, hnone, types_map_named hname, Option.map_none,
    Option.none_or]
  generalize (m.declarations.filter fun e ↦ e.isType && e.name == name) = found
  match found with
  | [] => simp
  | [e] => simp [Entity.named]
  | e :: e' :: rest => simp

/-- **Bare names link to types, unless they are qualified names.** In a model that was read, take a
type that the document gives no target for. If its name is the qualified name of a declaration, it
links to the first such declaration, of whatever kind this is. Otherwise it links exactly if there
is a single container or type definition of this name. So what it links to is a container or a type
definition, with the name or the qualified name that is written, if and only if the first
declaration with this qualified name is one where there is any. -/
theorem target_isType_iff {doc : Value} (hm : (ofValue doc).1 = .ok m)
    (href : ref ∈ m.typeRefs) (hbare : ref.wanted.isTrue = false) :
    (∀ e, (m.declarations.find? fun e ↦ e.qualifiedName == ref.name) = some e →
      ref.target = some e.place) ∧
    ((∀ e ∈ m.declarations, e.qualifiedName ≠ ref.name) → ∀ place, ref.target = some place ↔
      ∃ e, (m.declarations.filter fun e ↦ e.isType && e.name == ref.name) = [e] ∧
        e.place = place) ∧
    ((∀ place, ref.target = some place → ∃ e ∈ m.declarations, e.place = place ∧
      e.isType = true ∧ (e.name = ref.name ∨ e.qualifiedName = ref.name)) ↔
      ∀ e, (m.declarations.find? fun e ↦ e.qualifiedName == ref.name) = some e →
        e.isType = true) := by
  have htarget : ref.target = Index.find? (m.declarations.map Entity.named) ref.name := by
    have h := target_of_mem_typeRefs hm href
    simp only [Index.target, hbare, Bool.not_false, ↓reduceIte] at h
    exact (Except.ok.inj h).symm
  rw [htarget]
  refine ⟨fun e ↦ find?_map_named_of_qualified, fun hname place ↦ find?_map_named_eq_some_iff hname,
    fun htypes e he ↦ ?_, fun htypes place hplace ↦ ?_⟩
  · obtain ⟨e', he', hplace, htype, -⟩ := htypes e.place (find?_map_named_of_qualified he)
    have hin := isIn_of_mem_declarations (List.mem_of_find?_eq_some he)
    rwa [← (isIn_of_mem_declarations he').eq_of_place_eq hin hplace]
  · cases he : m.declarations.find? fun e ↦ e.qualifiedName == ref.name with
    | some e =>
      obtain rfl := Option.some.inj ((find?_map_named_of_qualified he).symm.trans hplace)
      have hqualified : e.qualifiedName = ref.name := by simpa using List.find?_some he
      exact ⟨e, List.mem_of_find?_eq_some he, rfl, htypes e he, .inr hqualified⟩
    | none =>
      have hname : ∀ e ∈ m.declarations, e.qualifiedName ≠ ref.name := by
        simpa using List.find?_eq_none.mp he
      obtain ⟨e, honly, rfl⟩ := (find?_map_named_eq_some_iff hname).mp hplace
      have hmem : e ∈ m.declarations.filter fun e ↦ e.isType && e.name == ref.name :=
        honly ▸ List.mem_singleton_self e
      obtain ⟨he, htest⟩ := List.mem_filter.mp hmem
      rw [Bool.and_eq_true, beq_iff_eq] at htest
      exact ⟨e, he, rfl, htest.1, .inl htest.2⟩

/-! ### A function that returns something of the name of its library -/

def eatDoc : Value := .record [("package", .record [("name", .text "kit"),
  ("libraries", .list [.record [("name", .text "fruit"),
    ("top_level", .list [.record [("name", .text "eat"), ("kind", .text "function"),
      ("return_type", .text "fruit")]])]])])]

/-- The name of the library, as a type. -/
def libraryType : TypeRef := .mk "fruit" [] false .null .null (some (.library 0 0))

def eatFunction : TopLevel :=
  { toInfo := { name := "eat", kind := "function" },
    toSigned := { returnType := some libraryType } }

def eatLibrary : Library :=
  { name := "fruit", kind := "library", dirName := "fruit", topLevel := [eatFunction] }

def eatPackage : Package := { name := "kit", kind := "package", libraries := [eatLibrary] }

def eatModel : Model := ⟨[eatPackage], [], "kit"⟩

/-- The type links to the library. -/
theorem target_isType_iff_library :
    (ofValue eatDoc).1 = .ok eatModel ∧ libraryType ∈ eatModel.typeRefs ∧
    libraryType.wanted.isTrue = false ∧ libraryType.target = some (.library 0 0) ∧
    ¬∀ place, libraryType.target = some place → ∃ e ∈ eatModel.declarations, e.place = place ∧
      e.isType = true ∧ (e.name = libraryType.name ∨ e.qualifiedName = libraryType.name) := by
  have hread : (ofValue eatDoc).1 = .ok eatModel := rfl
  have href : libraryType ∈ eatModel.typeRefs := List.mem_singleton_self libraryType
  have hbare : libraryType.wanted.isTrue = false := rfl
  obtain ⟨-, -, htypes⟩ := target_isType_iff hread href hbare
  refine ⟨hread, href, hbare, rfl, fun hall ↦ Bool.false_ne_true ?_⟩
  exact htypes.mp hall ⟨.library 0 0, .library eatLibrary, [.package eatPackage]⟩ rfl

end Model

end ApiSite
