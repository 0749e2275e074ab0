import ApiSite.Model.Linking
import ApiSite.Proofs.Model.Reading

/-!
# What linking keeps and fills in

Linking turns packages whose references are names into packages whose references are places. It does
so declaration by declaration: each has afterwards the name, kind and all else that it says of
itself, and every type that it is written with, nested ones included, has the target that the index
of all declarations gives (`Index.Resolves`). `Index.LinksPackage` says this of a package, with one
relation for each kind of declaration below it, and `yields_link` of the packages of a document.

Of containers there is more to say before they are made known to each other: nobody has told them of
implementers or extensions yet (`Index.PlacesContainer`).
-/

set_option autoImplicit false

namespace ApiSite.Model

/-! ### The types of declarations -/

namespace TypeRef

mutual

/-- A type, and the types that it is written with. -/
def parts : TypeRef → List TypeRef
  | .mk name arguments nullable href wanted target =>
    .mk name arguments nullable href wanted target :: partsOfAll arguments

def partsOfAll : List TypeRef → List TypeRef
  | [] => []
  | t :: rest => parts t ++ partsOfAll rest

end

end TypeRef

/-- The types in the signature of a member or a top-level element. -/
def Signed.types (s : Signed) : List TypeRef :=
  s.returnType.toList ++ s.parameters.filterMap Parameter.type ++
    s.typeParameters.filterMap TypeParameter.bound

def TopLevel.types (t : TopLevel) : List TypeRef := t.toSigned.types ++ t.aliasedType.toList

/-- The types that a container itself is written with, without those of its members. -/
def Container.types (c : Container) : List TypeRef :=
  c.typeParameters.filterMap TypeParameter.bound ++ c.supertype.toList ++ c.interfaces ++
    c.mixins ++ c.superclassConstraints ++ c.extendedType.toList

namespace Index

variable {ix : Index}

/-! ### Types -/

/-- A type and all in it have the targets that the index gives. -/
def Resolves (ix : Index) (t : TypeRef) : Prop :=
  ∀ u ∈ t.parts, ix.target u.name u.wanted = .ok u.target

mutual

theorem resolves_of_linkType : ∀ {t t' : TypeRef}, ix.linkType t = .ok t' → ix.Resolves t'
  | .mk name arguments nullable href wanted target, t', h => by
    obtain ⟨linked, hlinked, h⟩ := Except.exists_of_bind_eq_ok h
    obtain ⟨found, hfound, h⟩ := Except.exists_of_bind_eq_ok h
    cases h
    intro u hu
    rcases List.mem_cons.mp hu with rfl | hu
    · exact hfound
    · exact resolves_of_linkTypes hlinked u hu

theorem resolves_of_linkTypes : ∀ {ts ts' : List TypeRef}, ix.linkTypes ts = .ok ts' →
    ∀ u ∈ TypeRef.partsOfAll ts', ix.target u.name u.wanted = .ok u.target
  | [], ts', h => by
    cases h
    exact fun u hu ↦ absurd hu List.not_mem_nil
  | t :: rest, ts', h => by
    obtain ⟨t', ht, h⟩ := Except.exists_of_bind_eq_ok h
    obtain ⟨rest', hrest, h⟩ := Except.exists_of_bind_eq_ok h
    cases h
    intro u hu
    rcases List.mem_append.mp hu with hu | hu
    · exact resolves_of_linkType ht u hu
    · exact resolves_of_linkTypes hrest u hu

end

theorem mem_partsOfAll {ts : List TypeRef} {u : TypeRef} :
    u ∈ TypeRef.partsOfAll ts ↔ ∃ t ∈ ts, u ∈ t.parts := by
  induction ts with
  | nil => simp [TypeRef.partsOfAll]
  | cons t rest ih => simp [TypeRef.partsOfAll, ih]

/-- Some types all have the targets that the index gives. -/
def ResolvesAll (ix : Index) (ts : List TypeRef) : Prop := ∀ t ∈ ts, ix.Resolves t

theorem ResolvesAll.append {ts us : List TypeRef} (hts : ix.ResolvesAll ts)
    (hus : ix.ResolvesAll us) : ix.ResolvesAll (ts ++ us) :=
  fun t ht ↦ (List.mem_append.mp ht).elim (hts t) (hus t)

theorem resolvesAll_of_linkTypes {ts ts' : List TypeRef} (h : ix.linkTypes ts = .ok ts') :
    ix.ResolvesAll ts' :=
  fun t ht u hu ↦ resolves_of_linkTypes h u (mem_partsOfAll.mpr ⟨t, ht, hu⟩)

theorem resolvesAll_of_linkType? {t t' : Option TypeRef} (h : ix.linkType? t = .ok t') :
    ix.ResolvesAll t'.toList := by
  cases t with
  | none =>
    cases h
    exact fun u hu ↦ absurd hu List.not_mem_nil
  | some t =>
    obtain ⟨linked, hlinked, h⟩ := Except.exists_of_bind_eq_ok h
    cases h
    intro u hu
    obtain rfl := List.mem_singleton.mp hu
    exact resolves_of_linkType hlinked

/-- Of things that may be written with a type each is linked. -/
theorem resolvesAll_filterMap {α : Type} {link : α → Except Error α} {type : α → Option TypeRef}
    (hlink : ∀ a a', link a = .ok a' → ix.linkType? (type a) = .ok (type a')) {l l' : List α}
    (h : l.mapM link = .ok l') : ix.ResolvesAll (l'.filterMap type) := by
  intro t ht
  obtain ⟨a', ha', htype⟩ := List.mem_filterMap.mp ht
  obtain ⟨a, -, ha⟩ := Except.exists_item_of_mapM h ha'
  refine resolvesAll_of_linkType? (hlink a a' ha) t ?_
  rw [htype]
  exact List.mem_singleton_self t

theorem linkType?_bound {p p' : TypeParameter} (h : ix.linkTypeParameter p = .ok p') :
    ix.linkType? p.bound = .ok p'.bound := by
  obtain ⟨bound, hbound, h⟩ := Except.exists_of_bind_eq_ok h
  cases h
  exact hbound

theorem resolvesAll_of_linkSigned {s s' : Signed} (h : ix.linkSigned s = .ok s') :
    ix.ResolvesAll s'.types := by
  obtain ⟨returnType, hreturn, h⟩ := Except.exists_of_bind_eq_ok h
  obtain ⟨parameters, hparameters, h⟩ := Except.exists_of_bind_eq_ok h
  obtain ⟨typeParameters, htypeParameters, h⟩ := Except.exists_of_bind_eq_ok h
  cases h
  refine .append (.append (resolvesAll_of_linkType? hreturn) ?_)
    (resolvesAll_filterMap (fun _ _ ↦ linkType?_bound) htypeParameters)
  refine resolvesAll_filterMap (fun p p' hp ↦ ?_) hparameters
  obtain ⟨type, htype, hp⟩ := Except.exists_of_bind_eq_ok hp
  cases hp
  exact htype

/-! ### Declarations before and after linking -/

/-- A member as it was read, and with its references linked. -/
structure LinksMember (ix : Index) (x : NamedMember) (x' : Member) : Prop where
  info : x'.toInfo = x.member.toInfo
  types : ix.ResolvesAll x'.toSigned.types

/-- A container as it was read, and with its references linked. -/
structure LinksContainer (ix : Index) (c : NamedContainer) (c' : Container) : Prop where
  info : c'.toInfo = c.container.toInfo
  types : ix.ResolvesAll c'.types
  members : List.Forall₂ ix.LinksMember c.members c'.members

/-- A container with its references linked that no other one has become known to. -/
structure PlacesContainer (ix : Index) (c : NamedContainer) (c' : Container) : Prop
    extends ix.LinksContainer c c' where
  implementers : c'.implementers = c.container.implementers
  extensions : c'.extensions = c.container.extensions

/-- A top-level element as it was read, and with its references linked. -/
structure LinksTopLevel (ix : Index) (t t' : TopLevel) : Prop where
  info : t'.toInfo = t.toInfo
  types : ix.ResolvesAll t'.types

/-- A library as it was read, and linked, where `R` says what has become of its containers. -/
structure LinksLibrary (ix : Index) (R : NamedContainer → Container → Prop) (l : NamedLibrary)
    (l' : Library) : Prop where
  info : l'.toInfo = l.library.toInfo
  dirName : l'.dirName = l.library.dirName
  containers : List.Forall₂ R l.containers l'.containers
  topLevel : List.Forall₂ ix.LinksTopLevel l.library.topLevel l'.topLevel

/-- The libraries of a package as they were read, and linked. -/
def LinksPackage (ix : Index) (R : NamedContainer → Container → Prop) (p : NamedPackage)
    (p' : Package) : Prop :=
  List.Forall₂ (ix.LinksLibrary R) p.libraries p'.libraries

/-! ### Linking types -/

/-- A member with its types linked, while it still names containers. -/
def TypesMember (ix : Index) (x x' : NamedMember) : Prop :=
  x'.member.toInfo = x.member.toInfo ∧ ix.ResolvesAll x'.member.toSigned.types

theorem typesMember_of_linkMember {x x' : NamedMember} (h : ix.linkMember x = .ok x') :
    ix.TypesMember x x' := by
  obtain ⟨signed, hsigned, h⟩ := Except.exists_of_bind_eq_ok h
  cases h
  exact ⟨rfl, resolvesAll_of_linkSigned hsigned⟩

/-- A container with its types linked, while its members still name containers. -/
structure TypesContainer (ix : Index) (c c' : NamedContainer) : Prop where
  info : c'.container.toInfo = c.container.toInfo
  implementers : c'.container.implementers = c.container.implementers
  extensions : c'.container.extensions = c.container.extensions
  types : ix.ResolvesAll c'.container.types
  members : List.Forall₂ ix.TypesMember c.members c'.members

theorem typesContainer_of_linkContainer {c c' : NamedContainer}
    (h : ix.linkContainer c = .ok c') : ix.TypesContainer c c' := by
  obtain ⟨typeParameters, htypeParameters, h⟩ := Except.exists_of_bind_eq_ok h
  obtain ⟨supertype, hsupertype, h⟩ := Except.exists_of_bind_eq_ok h
  obtain ⟨interfaces, hinterfaces, h⟩ := Except.exists_of_bind_eq_ok h
  obtain ⟨mixins, hmixins, h⟩ := Except.exists_of_bind_eq_ok h
  obtain ⟨constraints, hconstraints, h⟩ := Except.exists_of_bind_eq_ok h
  obtain ⟨extendedType, hextendedType, h⟩ := Except.exists_of_bind_eq_ok h
  obtain ⟨members, hmembers, h⟩ := Except.exists_of_bind_eq_ok h
  cases h
  have hbounds := resolvesAll_filterMap (fun _ _ ↦ linkType?_bound) htypeParameters
  exact ⟨rfl, rfl, rfl,
    ((((hbounds.append (resolvesAll_of_linkType? hsupertype)).append
      (resolvesAll_of_linkTypes hinterfaces)).append (resolvesAll_of_linkTypes hmixins)).append
      (resolvesAll_of_linkTypes hconstraints)).append (resolvesAll_of_linkType? hextendedType),
    (Except.forall₂_of_mapM hmembers).imp fun _ _ ↦ typesMember_of_linkMember⟩

theorem linksTopLevel_of_linkTopLevel {t t' : TopLevel} (h : ix.linkTopLevel t = .ok t') :
    ix.LinksTopLevel t t' := by
  obtain ⟨signed, hsigned, h⟩ := Except.exists_of_bind_eq_ok h
  obtain ⟨aliasedType, haliasedType, h⟩ := Except.exists_of_bind_eq_ok h
  cases h
  exact ⟨rfl, .append (resolvesAll_of_linkSigned hsigned) (resolvesAll_of_linkType? haliasedType)⟩

/-! ### Linking members -/

theorem yields_placeMember {x x₁ : NamedMember} (h : ix.TypesMember x x₁) :
    Yields (ix.LinksMember x) (ix.placeMember x₁) :=
  yields_bind fun _ ↦ yields_bind fun _ ↦ yields_pure ⟨h.1, h.2⟩

theorem yields_placeContainer {c c₁ : NamedContainer} (h : ix.TypesContainer c c₁) :
    Yields (ix.PlacesContainer c) (ix.placeContainer c₁) := by
  have hmembers : Yields (List.Forall₂ ix.LinksMember c.members) (c₁.members.mapM ix.placeMember) :=
    yields_forall₂_mapM h.members fun _ _ ↦ yields_placeMember
  exact hmembers.bind fun members hmembers ↦
    yields_pure ⟨⟨h.info, h.types, hmembers⟩, h.implementers, h.extensions⟩

theorem yields_placeLibrary {l l₁ : NamedLibrary} (h : ix.linkLibrary l = .ok l₁) :
    Yields (ix.LinksLibrary ix.PlacesContainer l) (ix.placeLibrary l₁) := by
  obtain ⟨topLevel, htopLevel, h⟩ := Except.exists_of_bind_eq_ok h
  obtain ⟨containers, hcontainers, h⟩ := Except.exists_of_bind_eq_ok h
  cases h
  have hplaced : Yields (List.Forall₂ ix.PlacesContainer l.containers)
      (containers.mapM ix.placeContainer) :=
    yields_forall₂_mapM (Except.forall₂_of_mapM hcontainers) fun _ _ hc ↦
      yields_placeContainer (typesContainer_of_linkContainer hc)
  refine hplaced.bind fun placed hplaced ↦ yields_pure ⟨rfl, rfl, hplaced, ?_⟩
  exact (Except.forall₂_of_mapM htopLevel).imp fun _ _ ↦ linksTopLevel_of_linkTopLevel

theorem yields_placePackage {p p₁ : NamedPackage} (h : ix.linkPackage p = .ok p₁) :
    Yields (ix.LinksPackage ix.PlacesContainer p) (ix.placePackage p₁) := by
  obtain ⟨libraries, hlibraries, h⟩ := Except.exists_of_bind_eq_ok h
  cases h
  have hplaced : Yields (List.Forall₂ (ix.LinksLibrary ix.PlacesContainer) p.libraries)
      (libraries.mapM ix.placeLibrary) :=
    yields_forall₂_mapM (Except.forall₂_of_mapM hlibraries) fun _ _ ↦ yields_placeLibrary
  exact hplaced.bind fun placed hplaced ↦ yields_pure hplaced

end Index

/-- What linking makes of packages: all references are linked, and then it is derived what follows
from the links. -/
theorem yields_link (packages : List NamedPackage) : Yields (fun linked ↦ ∃ placed,
    List.Forall₂ ((indexPackages packages).LinksPackage (indexPackages packages).PlacesContainer)
      packages placed ∧ linked = derive placed) (link packages) := by
  have htyped : Yields
      (List.Forall₂ (fun p p₁ ↦ (indexPackages packages).linkPackage p = .ok p₁) packages)
      (liftM (packages.mapM (indexPackages packages).linkPackage)) :=
    yields_liftM fun typed htyped ↦ Except.forall₂_of_mapM htyped
  refine htyped.bind fun typed htyped ↦ ?_
  exact (yields_forall₂_mapM htyped fun _ _ ↦ Index.yields_placePackage).bind
    fun placed hplaced ↦ yields_pure ⟨placed, hplaced, rfl⟩

end ApiSite.Model
