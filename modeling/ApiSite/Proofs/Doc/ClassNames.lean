import ApiSite.Doc.Resolution
import ApiSite.Proofs.Model.Entities
import ApiSite.Proofs.Reference.Spelling

/-!
# Class names and constructors

A constructor without a name of its own goes by the name of its class, so within the class that name
is held by both. Asked for by the name alone, a constructor is rejected, and the walk outward finds
the class in its library (`lookUp?_className`); with a word in front or the parentheses of a call it
is the constructor that is found.
-/

set_option autoImplicit false

namespace ApiSite.Doc

open Model
open Reference (Opening Ending isNameChar)

/-- The constructors of a container that go by its name. -/
def unnamedConstructors (c : Entity) : List Entity :=
  c.members.filter Entity.isUnnamedConstructor

variable {l c e x : Entity} {name : Text} {accept : Entity → Bool}

/-! ### Members of a class -/

theorem isUnnamedConstructor_iff (hx : x ∈ c.members) : x.isUnnamedConstructor = true ↔
    x.kind = "constructor" ∧ (x.name = [] ∨ x.name = "new" ∨ x.name = c.name) := by
  have hparent := Entity.parent?_of_mem_members hx
  obtain ⟨member, hnode⟩ := Entity.exists_node_of_mem_members hx
  obtain ⟨place, node, outer⟩ := x
  obtain rfl : node = .member member := hnode
  cases outer with
  | nil => cases hparent
  | cons next outer =>
    obtain rfl := Option.some.inj hparent
    simp only [Entity.isUnnamedConstructor, Bool.and_eq_true, Bool.or_eq_true, beq_iff_eq,
      List.isEmpty_iff, or_assoc]
    exact Iff.rfl

/-- A constructor goes by the name of its class exactly where it has no other. -/
theorem memberKey_eq_name_iff (hx : x ∈ c.members) (hkind : x.kind = "constructor") :
    x.memberKey = c.name ↔ x.isUnnamedConstructor = true := by
  have hparent := Entity.parent?_of_mem_members hx
  have hname : ((x.outer.head?).map (·.info.name)).getD x.name = c.name := by
    cases houter : x.outer with
    | nil => simp [Entity.parent?, houter] at hparent
    | cons next outer =>
      rw [Entity.parent?, houter] at hparent
      obtain rfl := Option.some.inj hparent
      rfl
  rw [Entity.memberKey, if_pos (beq_iff_eq.mpr hkind), Entity.referenceName]
  by_cases hunnamed : x.isUnnamedConstructor = true
  · simp [hunnamed, hname]
  · rw [if_neg hunnamed]
    refine iff_of_false (fun heq ↦ hunnamed ?_) hunnamed
    exact (isUnnamedConstructor_iff hx).mpr ⟨hkind, Or.inr (Or.inr heq)⟩

/-- What a class holds under its own name, if this is no member with that name: the last of the
constructors that go by it. -/
theorem child?_name (hc : c ∈ l.containers)
    (hshadow : ∀ x, c.child? c.name = some x → x.kind = "constructor") :
    c.child? c.name = (unnamedConstructors c).getLast? := by
  obtain ⟨cont, hnode⟩ := Entity.exists_node_of_mem_containers hc
  have hchild : c.child? c.name = c.memberNamed? c.name := by rw [Entity.child?, hnode]
  rw [hchild] at hshadow ⊢
  unfold Entity.memberNamed? at hshadow ⊢
  simp only at hshadow ⊢
  rw [Option.or_of_isNone]
  · rw [List.filter_filter, unnamedConstructors]
    congr 1
    refine List.filter_congr fun x hx ↦ Bool.eq_iff_iff.mpr ?_
    rw [Bool.and_eq_true, beq_iff_eq, beq_iff_eq]
    constructor
    · rintro ⟨hkind, hkey⟩
      exact (memberKey_eq_name_iff hx hkind).mp hkey
    · intro hunnamed
      have hkind := ((isUnnamedConstructor_iff hx).mp hunnamed).1
      exact ⟨hkind, (memberKey_eq_name_iff hx hkind).mpr hunnamed⟩
  · rw [Option.isNone_iff_eq_none]
    by_contra hsome
    obtain ⟨x, hx⟩ := Option.ne_none_iff_exists'.mp hsome
    have hkind := hshadow x (by rw [hx]; rfl)
    simpa [hkind] using List.of_mem_filter (List.mem_of_getLast? hx)

/-! ### Declarations of a library -/

/-- A library holds a container under the name of each of its containers. -/
theorem exists_child?_eq_some (hc : c ∈ l.containers) :
    ∃ target ∈ l.containers, l.child? c.name = some target := by
  have hnode : ∃ lib, l.node = .library lib := by
    unfold Entity.containers at hc
    split at hc
    · next hlib => exact ⟨_, hlib⟩
    · exact absurd hc List.not_mem_nil
  obtain ⟨lib, hnode⟩ := hnode
  have hmem : c ∈ l.containers.filter fun (x : Entity) ↦ x.name == c.name :=
    List.mem_filter.mpr ⟨hc, beq_self_eq_true _⟩
  have htarget := List.getLast?_eq_some_getLast (List.ne_nil_of_mem hmem)
  refine ⟨_, List.mem_of_mem_filter (List.mem_of_getLast? htarget), ?_⟩
  rw [Entity.child?, hnode]
  show Entity.declarationNamed? l c.name = _
  rw [Entity.declarationNamed?, htarget, Option.some_or]

/-! ### Scopes -/

/-- From a class and from its members a name is looked up in the class, and where nothing there is
accepted, from its library. -/
theorem lookUp?_singleton (hc : c ∈ l.containers) (he : e = c ∨ e ∈ c.members) (hname : name ≠ []) :
    e.lookUp? [name] accept = ((c.child? name).filter accept).or (l.lookUp? [name] accept) := by
  have hclass : c.lookUp? [name] accept =
      ((c.child? name).filter accept).or (l.lookUp? [name] accept) := by
    rw [Entity.lookUp?_cons hname, Entity.descend?_singleton,
      Entity.parent?_of_mem_containers hc, Option.bind_some]
  rcases he with rfl | hmember
  · exact hclass
  · obtain ⟨member, hnode⟩ := Entity.exists_node_of_mem_members hmember
    have hnothing : e.child? name = none := by rw [Entity.child?, hnode]
    rw [Entity.lookUp?_cons hname, Entity.descend?_singleton,
      Entity.parent?_of_mem_members hmember, hnothing, Option.filter_none, Option.none_or,
      Option.bind_some, hclass]

/-! ### References to a class -/

theorem mem_unnamedConstructors_iff : x ∈ unnamedConstructors c ↔
    x ∈ c.members ∧ x.kind = "constructor" ∧ (x.name = [] ∨ x.name = "new" ∨ x.name = c.name) := by
  rw [unnamedConstructors, List.mem_filter]
  exact and_congr_right isUnnamedConstructor_iff

/-- A constructor that goes by the name of its class is accepted where one is asked for. -/
theorem acceptsConstructor_eq (hx : x ∈ unnamedConstructors c) (wanted : Bool) :
    acceptsConstructor wanted x = wanted := by
  obtain ⟨hmember, hunnamed⟩ := List.mem_filter.mp hx
  have hkind := ((isUnnamedConstructor_iff hmember).mp hunnamed).1
  obtain ⟨member, hnode⟩ := Entity.exists_node_of_mem_members hmember
  rw [acceptsConstructor, hnode]
  simp only
  rw [hkind, if_neg (by decide), if_pos hunnamed]

theorem isCallable_of_mem (hx : x ∈ unnamedConstructors c) : x.capabilities.isCallable = true := by
  obtain ⟨hmember, hkind, -⟩ := mem_unnamedConstructors_iff.mp hx
  obtain ⟨member, hnode⟩ := Entity.exists_node_of_mem_members hmember
  rw [Entity.capabilities, hnode]
  simp only
  rw [hkind]
  decide

/-- The name of a class alone means what its library holds under it. -/
theorem lookUp?_eq_child?_library (hc : c ∈ l.containers) (he : e = c ∨ e ∈ c.members)
    (hname : c.name ≠ []) (hshadow : ∀ x, c.child? c.name = some x → x.kind = "constructor") :
    e.lookUp? [c.name] (acceptsConstructor false) = l.child? c.name := by
  obtain ⟨target, htarget, hchild⟩ := exists_child?_eq_some hc
  have hrejected : (c.child? c.name).filter (acceptsConstructor false) = none := by
    rw [Option.filter_eq_none_iff, child?_name hc hshadow]
    intro x hx
    rw [acceptsConstructor_eq (List.mem_of_getLast? hx)]
    exact Bool.false_ne_true
  have haccepted : acceptsConstructor false target = true := by
    obtain ⟨cont, hnode⟩ := Entity.exists_node_of_mem_containers htarget
    rw [acceptsConstructor, hnode]
  rw [lookUp?_singleton hc he hname, hrejected, Option.none_or, Entity.lookUp?_cons hname,
    Entity.descend?_singleton, hchild, Option.filter_some, if_pos haccepted, Option.some_or]

/-- Where what is accepted takes in the constructors that go by the name of a class, the name means
the last of them. -/
theorem lookUp?_eq_getLast? (hc : c ∈ l.containers) (he : e = c ∨ e ∈ c.members)
    (hname : c.name ≠ []) (hshadow : ∀ x, c.child? c.name = some x → x.kind = "constructor")
    (hsome : unnamedConstructors c ≠ []) (haccept : ∀ x ∈ unnamedConstructors c, accept x = true) :
    e.lookUp? [c.name] accept = (unnamedConstructors c).getLast? := by
  have hlast := List.getLast?_eq_some_getLast hsome
  rw [lookUp?_singleton hc he hname, child?_name hc hshadow, hlast, Option.filter_some,
    if_pos (haccept _ (List.getLast_mem hsome)), Option.some_or]

/-- **Class names and constructors are told apart.** Take a class with the name of an identifier
that does not begin with the word for operators, and under whose name it holds no member but
constructors. From the class and from its members, its name alone means the container that the
library holds under it. With `new` in front or parentheses behind it means a constructor that goes
by the name of the class, if there is one: the last that is declared. -/
theorem lookUp?_className (hc : c ∈ l.containers) (he : e = c ∨ e ∈ c.members)
    (hname : c.name ≠ []) (hchars : ∀ x ∈ c.name, isNameChar x = true)
    (hoperator : ¬"operator".toList <+: c.name)
    (hshadow : ∀ x, c.child? c.name = some x → x.kind = "constructor") :
    (∃ target cont, l.child? c.name = some target ∧ target.node = .container cont ∧
      lookUp? e (Reference.parse c.name) = some target) ∧
    ∀ x ∈ c.members, x.kind = "constructor" →
      (x.name = [] ∨ x.name = "new" ∨ x.name = c.name) →
      ∃ found, (unnamedConstructors c).getLast? = some found ∧
        lookUp? e (Reference.parse ("new " ++ c.name)) = some found ∧
        lookUp? e (Reference.parse (c.name ++ "()")) = some found := by
  have hparse (opening : Opening) (ending : Ending) (hending : ending ≠ .callNullable) :=
    Reference.Spelling.parse_name hname hchars hoperator opening hending
  constructor
  · have hplain : Reference.parse c.name = ⟨c.name, [c.name], false, false⟩ := by
      simpa [Opening.text, Ending.text, Ending.mark, Ending.isCall] using
        hparse .plain .plain (by decide)
    obtain ⟨target, htarget, hchild⟩ := exists_child?_eq_some hc
    obtain ⟨cont, hnode⟩ := Entity.exists_node_of_mem_containers htarget
    refine ⟨target, cont, hchild, hnode, ?_⟩
    rw [hplain, ← hchild]
    exact lookUp?_eq_child?_library hc he hname hshadow
  · have hnew : Reference.parse ("new " ++ c.name) = ⟨"new " ++ c.name, [c.name], false, true⟩ := by
      simpa [Opening.text, Ending.text, Ending.mark, Ending.isCall] using
        hparse .new .plain (by decide)
    have hcall : Reference.parse (c.name ++ "()") = ⟨c.name ++ "()", [c.name], true, false⟩ := by
      simpa [Opening.text, Ending.text, Ending.mark, Ending.isCall] using
        hparse .plain .call (by decide)
    intro x hx hkind hunnamed
    have hsome := List.ne_nil_of_mem (mem_unnamedConstructors_iff.mpr ⟨hx, hkind, hunnamed⟩)
    have hlast := List.getLast?_eq_some_getLast hsome
    refine ⟨_, hlast, ?_, ?_⟩
    · rw [hnew, ← hlast]
      exact lookUp?_eq_getLast? hc he hname hshadow hsome fun x hx ↦ acceptsConstructor_eq hx true
    · rw [hcall, ← hlast]
      exact lookUp?_eq_getLast? hc he hname hshadow hsome fun x hx ↦ isCallable_of_mem hx

/-- A library with a class that has a constructor, a field and a method. -/
def kit : Entity where
  place := .library 0 0
  node := .library kitLibrary
  outer := [.package { name := "kit", libraries := [kitLibrary] }]
where
  kitLibrary : Library :=
    { name := "kit"
      containers := [{ name := "Box", kind := "class", members :=
        [{ name := "new", kind := "constructor" }, { name := "size", kind := "field" },
          { name := "open", kind := "method" }] }] }

/-- Its class. -/
def box : Entity := kit.containers.head (by decide)

theorem lookUp?_className_box :
    (∃ target cont, kit.child? "Box" = some target ∧ target.node = .container cont ∧
      lookUp? (box.members.getLast (by decide)) (Reference.parse "Box") = some target) ∧
    ∃ found, (unnamedConstructors box).getLast? = some found ∧
      lookUp? (box.members.getLast (by decide)) (Reference.parse "new Box") = some found ∧
      lookUp? (box.members.getLast (by decide)) (Reference.parse "Box()") = some found := by
  have h := lookUp?_className (l := kit) (c := box) (e := box.members.getLast (by decide))
    (List.head_mem _) (Or.inr (List.getLast_mem _)) (by decide) (List.all_eq_true.mp rfl)
    (by decide) (fun x hx ↦ by cases hx; rfl)
  exact ⟨h.1, h.2 (box.members.head (by decide)) (List.head_mem _) rfl (Or.inr (Or.inl rfl))⟩

end ApiSite.Doc
