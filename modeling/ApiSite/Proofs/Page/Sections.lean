import ApiSite.Page.Container
import ApiSite.Proofs.Model.Entities
import ApiSite.Proofs.Model.Loading
import ApiSite.Proofs.Sorting
import Mathlib.Data.List.Perm.Basic

/-!
# The sections of a container's page

Each section of a page takes the members that pass its own test, and the tests are made of the same
few facts about a member in different ways. For the kinds that there are they fit together
(`length_filter_holds`): a member passes exactly one of them, and none if it is a setter that is
constant. So the sections are a division of the public members other than these, and the number
that decides about the outline is how many they are. The main result is `memberSections_partition`.
-/

set_option autoImplicit false

namespace List

variable {α κ : Type}

theorem flatMap_filter_singleton {keys : List κ} {test : κ → α → Bool} (a : α) :
    (keys.flatMap fun k ↦ [a].filter (test k)) =
      replicate (keys.filter fun k ↦ test k a).length a := by
  induction keys with
  | nil => rfl
  | cons k keys ih =>
    rw [flatMap_cons, ih]
    cases htest : test k a <;> simp [htest, replicate_succ]

/-- Where items pass at most one of some tests, all that is picked by a test is what passes one. -/
theorem flatMap_filter_perm_of_length {keys : List κ} {test : κ → α → Bool} {picked : α → Bool}
    {l : List α} (h : ∀ a ∈ l, (keys.filter fun k ↦ test k a).length = if picked a then 1 else 0) :
    (keys.flatMap fun k ↦ l.filter (test k)).Perm (l.filter picked) := by
  induction l with
  | nil => simp
  | cons a l ih =>
    have hfirst : (keys.flatMap fun k ↦ [a].filter (test k)) = [a].filter picked := by
      have hcount := h a mem_cons_self
      rw [flatMap_filter_singleton]
      cases hpicked : picked a <;> simp_all
    have hsplit : keys.flatMap (fun k ↦ (a :: l).filter (test k)) =
        keys.flatMap fun k ↦ [a].filter (test k) ++ l.filter (test k) :=
      flatMap_congr fun k _ ↦ filter_append [a] l
    have hpicked : (a :: l).filter picked = [a].filter picked ++ l.filter picked :=
      filter_append [a] l
    rw [hsplit, hpicked, ← hfirst]
    refine (flatMap_append_perm keys _ _).symm.trans ?_
    exact (ih fun b hb ↦ h b (mem_cons_of_mem _ hb)).append_left _

end List

namespace ApiSite.Page

open Model

variable {m : Model} {e x : Entity} {c : Container}

/-! ### The tests of sections -/

/-- Whether a page shows a member: it is public, and no setter of something constant. -/
def isListed (x : Entity) : Bool :=
  match x.node with
  | .member m => m.isPublic && !(m.kind == "setter" && m.isConst)
  | _ => false

/-- A test of a section looks at the kind of a member, and at whether it is static or constant. -/
theorem holds_eq (s : Section) (y : Member) : s.holds y = s.holds
    { name := [], kind := y.kind, isStatic := y.isStatic, isConst := y.isConst } := by
  cases s <;> rfl

/-- A member passes one of the tests, unless it is a constant setter. -/
theorem length_filter_holds {y : Member} (hkind : isMemberKind y.kind = true) :
    (Section.all.filter fun s ↦ s.holds y).length =
      if y.kind == "setter" && y.isConst then 0 else 1 := by
  have htable : ∀ kind ∈ memberKinds, ∀ isStatic isConst : Bool,
      (Section.all.filter fun s ↦ s.holds
        { name := [], kind := kind, isStatic := isStatic, isConst := isConst }).length =
        if kind == "setter" && isConst then 0 else 1 := by decide
  simp only [holds_eq _ y]
  exact htable y.kind (List.contains_iff_mem.mp hkind) y.isStatic y.isConst

theorem eq_constructors_of_holds {s : Section} {y : Member} (hs : s.holds y = true)
    (hkind : y.kind = "constructor") : s = .constructors := by
  have htable : ∀ isStatic isConst : Bool, s.holds
      { name := [], kind := "constructor", isStatic := isStatic, isConst := isConst } = true →
        s = .constructors := by cases s <;> decide
  rw [holds_eq, hkind] at hs
  exact htable y.isStatic y.isConst hs

theorem length_filter_shows (hx : x ∈ e.members)
    (hkinds : ∀ y, x.node = .member y → isMemberKind y.kind = true) :
    (Section.all.filter fun s ↦ s.shows x).length = if isListed x then 1 else 0 := by
  obtain ⟨y, hnode⟩ := Entity.exists_node_of_mem_members hx
  have hholds := length_filter_holds (hkinds y hnode)
  simp only [Section.shows, isListed, hnode]
  cases y.isPublic with
  | false => rfl
  | true =>
    simp only [Bool.true_and, hholds]
    cases y.kind == "setter" && y.isConst <;> rfl

/-! ### Members of sections -/

theorem order_perm (s : Section) (members : List Entity) : (s.order members).Perm members := by
  cases s
  case values => exact .refl members
  case constructors =>
    exact ((Text.sortByName_perm _ _).append (Text.sortByName_perm _ _)).trans
      (List.filter_append_perm _ members)
  all_goals exact Text.sortByName_perm _ members

theorem flatMap_snd_filter {κ α : Type} (l : List (κ × List α)) :
    (l.filter fun s ↦ !s.2.isEmpty).flatMap Prod.snd = l.flatMap Prod.snd := by
  induction l with
  | nil => rfl
  | cons s l ih =>
    obtain ⟨k, items⟩ := s
    cases items <;> simp [ih]

theorem memberSections_perm
    (hkinds : ∀ x ∈ e.members, ∀ y, x.node = .member y → isMemberKind y.kind = true) :
    ((memberSections e).flatMap Prod.snd).Perm (e.members.filter isListed) := by
  rw [memberSections, flatMap_snd_filter, List.flatMap_map]
  refine (List.Perm.flatMap_left _ fun s _ ↦ order_perm s _).trans ?_
  exact List.flatMap_filter_perm_of_length fun x hx ↦ length_filter_shows hx (hkinds x hx)

theorem map_fst_memberSections_sublist (e : Entity) :
    ((memberSections e).map Prod.fst).Sublist Section.all := by
  have hmap : (Section.all.map fun s ↦ (s, s.order (e.members.filter s.shows))).map Prod.fst =
      Section.all := by
    rw [List.map_map]
    exact List.map_id _
  exact hmap ▸ List.filter_sublist.map Prod.fst

theorem total_map_length {α β : Type} (f : α → List β) (l : List α) :
    total (l.map fun a ↦ (f a).length) = (l.flatMap f).length := by
  induction l with
  | nil => rfl
  | cons a l ih => rw [List.map_cons, total, ih, List.flatMap_cons, List.length_append]

/-! ### The order of members -/

/-- An order for the members of a container: unnamed constructors first, then by name, where letter
case counts for nothing, and then as they are declared. -/
def IsBefore (e a b : Entity) : Prop :=
  (a.isUnnamedConstructor = true ∧ b.isUnnamedConstructor = false) ∨
  (a.isUnnamedConstructor = b.isUnnamedConstructor ∧
    (Text.lower a.name < Text.lower b.name ∨
      Text.lower a.name = Text.lower b.name ∧ [a, b].Sublist e.members))

/-- Members that are all unnamed constructors, or all not. -/
theorem pairwise_isBefore_sortByName {members : List Entity} {isUnnamed : Bool}
    (hmembers : members.Sublist e.members)
    (hunnamed : ∀ x ∈ members, x.isUnnamedConstructor = isUnnamed) :
    (Text.sortByName Entity.name members).Pairwise (IsBefore e) := by
  refine (Text.pairwise_sortByName Entity.name members).imp_of_mem fun {a b} ha hb hab ↦ ?_
  refine .inr ⟨?_, hab.imp_right fun ⟨heq, hsub⟩ ↦ ⟨heq, hsub.trans hmembers⟩⟩
  rw [hunnamed a ((Text.sortByName_perm _ _).mem_iff.mp ha),
    hunnamed b ((Text.sortByName_perm _ _).mem_iff.mp hb)]

theorem isUnnamedConstructor_eq_false {s : Section} (hs : s.shows x = true)
    (hother : s ≠ .constructors) : x.isUnnamedConstructor = false := by
  unfold Section.shows at hs
  split at hs
  · next y hnode =>
    refine Bool.eq_false_iff.mpr fun hunnamed ↦ hother ?_
    have hkind : x.kind = "constructor" := eq_of_beq (Bool.and_eq_true _ _ ▸ hunnamed).1
    rw [Entity.kind, Entity.info, hnode] at hkind
    exact eq_constructors_of_holds (Bool.and_eq_true _ _ ▸ hs).2 hkind
  · cases hs

theorem pairwise_isBefore_order {s : Section} (hvalues : s ≠ .values) :
    (s.order (e.members.filter s.shows)).Pairwise (IsBefore e) := by
  cases s
  case values => exact absurd rfl hvalues
  case constructors =>
    refine List.pairwise_append.mpr ⟨?_, ?_, fun a ha b hb ↦ .inl ⟨?_, ?_⟩⟩
    · exact pairwise_isBefore_sortByName (List.filter_sublist.trans List.filter_sublist)
        fun x hx ↦ (List.mem_filter.mp hx).2
    · exact pairwise_isBefore_sortByName (List.filter_sublist.trans List.filter_sublist)
        fun x hx ↦ by simpa using (List.mem_filter.mp hx).2
    · exact (List.mem_filter.mp ((Text.sortByName_perm _ _).mem_iff.mp ha)).2
    · simpa using (List.mem_filter.mp ((Text.sortByName_perm _ _).mem_iff.mp hb)).2
  all_goals
    exact pairwise_isBefore_sortByName List.filter_sublist fun x hx ↦
      isUnnamedConstructor_eq_false (List.mem_filter.mp hx).2 (by decide)

/-! ### Containers of a model -/

theorem nodup_members (e : Entity) : e.members.Nodup := by
  unfold Entity.members
  split
  · next p l c cont hplace hnode =>
    refine List.Nodup.of_map Entity.place ?_
    have hplaces := (List.nodup_zipIdx_map_snd cont.members).map (f := Place.member p l c)
      fun i j heq ↦ (Place.member.inj heq).2.2.2
    rw [List.map_map]
    rwa [List.map_map] at hplaces
  · exact List.nodup_nil

theorem isMemberKind_of_mem_members (hm : m.IsSound) (he : e.IsIn m)
    (hnode : e.node = .container c) (hx : x ∈ e.members) {y : Member} (hy : x.node = .member y) :
    isMemberKind y.kind = true := by
  obtain ⟨p, hp, l, hl, he⟩ := he.of_container hnode
  obtain ⟨pkg, hpkg, hpnode⟩ := Entity.exists_mem_packages hp
  obtain ⟨lib, hlib, hlnode⟩ := Entity.exists_mem_libraries hl hpnode
  obtain ⟨c', hc, hcnode⟩ := Entity.exists_mem_containers he hlnode
  obtain ⟨y', hy', hxnode⟩ := Entity.exists_mem_members hx hcnode
  obtain rfl := Node.member.inj (hxnode.symm.trans hy)
  exact (hm pkg hpkg lib hlib).members c' hc y' hy'

/-- **Sections divide the members.** On the page of a container of a model that was read, the
sections together show the public members other than constant setters, each of them once. The
sections stand in their order and none is empty. Values are shown as they are declared, and in any
other section unnamed constructors come first and members are ordered by their names, where letter
case counts for nothing, and then as they are declared. The number that decides about the outline is
that of all that is shown. -/
theorem memberSections_partition {doc : Value} (hm : (Model.ofValue doc).1 = .ok m)
    (he : e.IsIn m) (hnode : e.node = .container c) :
    e.members.Nodup ∧ ((memberSections e).flatMap Prod.snd).Perm (e.members.filter isListed) ∧
    ((memberSections e).map Prod.fst).Sublist Section.all ∧
    (∀ s members, (s, members) ∈ memberSections e → members ≠ [] ∧
      if s = .values then members.Sublist e.members else members.Pairwise (IsBefore e)) ∧
    memberCount e = (e.members.filter isListed).length ∧
    ∀ threshold : Int, outlineFor e (.int threshold) = .ok (.levels
      (if threshold < (e.members.filter isListed).length then [2, 2] else [2, 3])) := by
  have hperm : ((memberSections e).flatMap Prod.snd).Perm (e.members.filter isListed) :=
    memberSections_perm fun x hx y ↦
      isMemberKind_of_mem_members (isSound_of_ofValue hm) he hnode hx
  have hcount : memberCount e = (e.members.filter isListed).length := by
    rw [memberCount, total_map_length, hperm.length_eq]
  refine ⟨nodup_members e, hperm, map_fst_memberSections_sublist e, fun s members hs ↦ ?_, hcount,
    fun threshold ↦ ?_⟩
  · obtain ⟨hs, hnonempty⟩ := List.mem_filter.mp hs
    obtain ⟨s', -, heq⟩ := List.mem_map.mp hs
    obtain ⟨rfl, rfl⟩ := Prod.mk.inj heq
    refine ⟨by simpa using hnonempty, ?_⟩
    split
    · next hvalues =>
      subst hvalues
      exact List.filter_sublist
    · next hvalues => exact pairwise_isBefore_order hvalues
  · simp [outlineFor, Settings.isAbove, Value.number?, hcount]

/-! ### A class with members of several sections -/

def appleDoc : Value := .record [("package", .record [("name", .text "kit"),
  ("libraries", .list [.record [("name", .text "fruit"),
    ("containers", .list [.record [("name", .text "Apple"), ("kind", .text "class"),
      ("members", .list [
        .record [("name", .text "peel"), ("kind", .text "method")],
        .record [("name", .text "sliced"), ("kind", .text "constructor")],
        .record [("name", .text "new"), ("kind", .text "constructor")],
        .record [("name", .text "rot"), ("kind", .text "method"), ("is_public", .bool false)],
        .record [("name", .text "color"), ("kind", .text "setter"),
          ("is_const", .bool true)]])]])]])])]

def peelMember : Member := { toInfo := { name := "peel", kind := "method" } }

def slicedMember : Member := { toInfo := { name := "sliced", kind := "constructor" } }

def newMember : Member := { toInfo := { name := "new", kind := "constructor" } }

def rotMember : Member := { toInfo := { name := "rot", kind := "method", isPublic := false } }

def colorMember : Member :=
  { toInfo := { name := "color", kind := "setter" }, toSigned := { isConst := true } }

def appleClass : Container :=
  { name := "Apple", kind := "class",
    members := [peelMember, slicedMember, newMember, rotMember, colorMember] }

def appleLibrary : Library :=
  { name := "fruit", kind := "library", dirName := "fruit", containers := [appleClass] }

def applePackage : Package := { name := "kit", kind := "package", libraries := [appleLibrary] }

def appleModel : Model := ⟨[applePackage], [], "kit"⟩

def apple : Entity :=
  ⟨.container 0 0 0, .container appleClass, [.library appleLibrary, .package applePackage]⟩

/-- The page shows the three public members that are no constant setters. -/
theorem memberSections_partition_apple :
    (Model.ofValue appleDoc).1 = .ok appleModel ∧ apple.IsIn appleModel ∧
    ((memberSections apple).flatMap Prod.snd).Perm (apple.members.take 3) ∧
    memberCount apple = 3 ∧ outlineFor apple (.int 2) = .ok (.levels [2, 2]) := by
  have hread : (Model.ofValue appleDoc).1 = .ok appleModel := rfl
  have hin : apple.IsIn appleModel :=
    Model.isIn_of_entity? (rfl : appleModel.entity? (.container 0 0 0) = some apple)
  obtain ⟨-, hperm, -, -, hcount, houtline⟩ := memberSections_partition hread hin rfl
  exact ⟨hread, hin, hperm, hcount, houtline 2⟩

end ApiSite.Page
