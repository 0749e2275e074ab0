import ApiSite.Proofs.Naming.UniqueAnchors
import ApiSite.Proofs.Page.Sections

/-!
# Where links to members lead

The page of a container gives each member that it shows an anchor that is new on the page
(`shown`), while the address of a member has the anchor that the member asks for (`memberAnchor`).
The two are the same exactly as long as nothing before has taken that anchor: the title of the page,
or the heading of another member (`link?_eq_iff_of_shown`). All members of a page can be linked to
exactly if the anchors that they ask for are not empty, and differ from each other and from that of
the title (`links_lead_to_headings_iff`).
-/

set_option autoImplicit false

namespace ApiSite

/-! ### The members that a page shows -/

namespace Page

open Location

variable {e m : Entity} {used : List Text}

/-- A member that a page shows, with its section and the anchor of its heading. -/
structure Shown where
  group : Section
  member : Entity
  anchor : Text

/-- The members of sections in order, with the anchors that their headings get. -/
def shownIn (sections : List (Section × List Entity)) (used : List Text) : List Shown :=
  (anchorSections sections used).flatMap fun (s, members) ↦ members.map fun (m, anchor) ↦
    ⟨s, m, anchor⟩

/-- The members that the page of a container shows, with the anchors of their headings. -/
def shown (container : Entity) : List Shown :=
  shownIn (memberSections container) [Naming.titleAnchor (Signature.plainName container)]

/-- Each of some anchors is made new by those used before it. -/
def AreNew : (used : List Text) → List (Entity × Text) → Prop
  | _, [] => True
  | used, (m, anchor) :: rest =>
    anchor = (Naming.uniqueAnchor (wantedAnchor m) used).1 ∧ AreNew (used ++ [anchor]) rest

theorem areNew_append {first second : List (Entity × Text)} :
    AreNew used (first ++ second) ↔
      AreNew used first ∧ AreNew (used ++ first.map Prod.snd) second := by
  induction first generalizing used with
  | nil => simp [AreNew]
  | cons head first ih =>
    obtain ⟨m, anchor⟩ := head
    simp only [List.cons_append, AreNew, ih, List.map_cons, List.append_assoc, List.nil_append,
      and_assoc]

theorem areNew_assignAnchors (members : List Entity) (used : List Text) :
    AreNew used (assignAnchors members used).1 ∧
      (assignAnchors members used).2 = used ++ (assignAnchors members used).1.map Prod.snd ∧
      (assignAnchors members used).1.map Prod.fst = members := by
  induction members generalizing used with
  | nil => simp [assignAnchors, AreNew]
  | cons m members ih =>
    obtain ⟨hnew, hused, hmembers⟩ := ih (Naming.uniqueAnchor (wantedAnchor m) used).2
    rw [Naming.uniqueAnchor_snd] at hnew hused hmembers
    simp only [assignAnchors, AreNew, List.map_cons, Naming.uniqueAnchor_snd]
    exact ⟨⟨trivial, hnew⟩, by rw [hused]; simp, by rw [hmembers]⟩

theorem areNew_shownIn (sections : List (Section × List Entity)) (used : List Text) :
    AreNew used ((shownIn sections used).map fun x ↦ (x.member, x.anchor)) := by
  induction sections generalizing used with
  | nil => simp [shownIn, anchorSections, AreNew]
  | cons head sections ih =>
    obtain ⟨s, members⟩ := head
    obtain ⟨hnew, hused, -⟩ := areNew_assignAnchors members used
    have hrest := ih (assignAnchors members used).2
    simp only [shownIn, anchorSections, List.flatMap_cons, List.map_append, List.map_map] at hrest ⊢
    refine areNew_append.mpr ⟨?_, ?_⟩
    · simpa [Function.comp_def] using hnew
    · rw [hused] at hrest
      simpa [Function.comp_def, hused] using hrest

/-- Anchors are what is asked for exactly if all that is asked for is new and different. -/
theorem AreNew.all_eq_iff {l : List (Entity × Text)} (hnew : AreNew used l) (hused : used.Nodup) :
    (∀ x ∈ l, wantedAnchor x.1 = x.2) ↔ (used ++ l.map fun x ↦ wantedAnchor x.1).Nodup := by
  induction l generalizing used with
  | nil => simpa using hused
  | cons head l ih =>
    obtain ⟨m, anchor⟩ := head
    obtain ⟨hanchor, hrest⟩ := hnew
    have hfirst : wantedAnchor m = anchor ↔ wantedAnchor m ∉ used := by
      rw [hanchor, eq_comm, Naming.uniqueAnchor_eq_self_iff]
    rw [List.forall_mem_cons, List.map_cons, hfirst]
    constructor
    · rintro ⟨hfresh, hall⟩
      rw [hfirst.mpr hfresh, List.append_cons]
      refine (ih hrest ?_).mp hall
      rw [← hfirst.mpr hfresh, ← List.concat_eq_append]
      exact List.Nodup.concat hfresh hused
    · intro hnodup
      have hfresh : wantedAnchor m ∉ used := fun hmem ↦
        List.disjoint_of_nodup_append hnodup hmem List.mem_cons_self
      refine ⟨hfresh, ?_⟩
      rw [hfirst.mpr hfresh, List.append_cons] at hnodup
      exact (ih hrest (List.nodup_append.mp hnodup).1).mpr hnodup

/-- The anchor of a heading is new among those of the title and of the headings before it. -/
theorem anchor_of_shown {before after : List Shown} {x : Shown}
    (hshown : shown e = before ++ x :: after) :
    x.anchor = (Naming.uniqueAnchor (wantedAnchor x.member)
      (Naming.titleAnchor (Signature.plainName e) :: before.map Shown.anchor)).1 := by
  have hnew := areNew_shownIn (memberSections e) [Naming.titleAnchor (Signature.plainName e)]
  rw [← shown, hshown, List.map_append, areNew_append, List.map_map] at hnew
  exact hnew.2.1

theorem mem_shownIn {sections : List (Section × List Entity)} {x : Shown}
    (hx : x ∈ shownIn sections used) : ∃ members, (x.group, members) ∈ sections ∧
      x.member ∈ members := by
  induction sections generalizing used with
  | nil => simp [shownIn, anchorSections] at hx
  | cons head sections ih =>
    obtain ⟨s, members⟩ := head
    simp only [shownIn, anchorSections, List.flatMap_cons, List.mem_append, List.mem_map] at hx
    rcases hx with ⟨⟨m, anchor⟩, hmem, rfl⟩ | hrest
    · refine ⟨members, List.mem_cons_self, ?_⟩
      rw [← (areNew_assignAnchors members used).2.2]
      exact List.mem_map_of_mem hmem
    · obtain ⟨members', hsection, hmember⟩ := ih hrest
      exact ⟨members', List.mem_cons_of_mem _ hsection, hmember⟩

/-- What the page of a container shows are members of it that belong in their sections. -/
theorem shows_of_mem_shown {x : Shown} (hx : x ∈ shown e) :
    x.member ∈ e.members ∧ x.group.shows x.member = true := by
  obtain ⟨members, hsection, hmember⟩ := mem_shownIn hx
  obtain ⟨hsection, -⟩ := List.mem_filter.mp hsection
  obtain ⟨s, -, heq⟩ := List.mem_map.mp hsection
  cases heq
  rw [(order_perm _ _).mem_iff] at hmember
  exact List.mem_filter.mp hmember

theorem exists_member_of_shows {s : Section} (hs : s.shows m = true) :
    ∃ member, m.node = .member member ∧ m.isPublic = true := by
  unfold Section.shows at hs
  split at hs
  · next member hnode =>
    refine ⟨member, hnode, ?_⟩
    rw [Entity.isPublic, Entity.info, hnode]
    exact (Bool.and_eq_true _ _ ▸ hs).1
  · cases hs

/-! ### Links -/

/-- The address of a member on the page of its container. -/
theorem link?_of_shown {loc : Location} {url : Text} {x : Shown} (hpage : loc.pageUrl? e = some url)
    (hx : x ∈ shown e) :
    loc.link? x.member = some (withAnchor url (some (memberAnchor x.member))) := by
  obtain ⟨hmember, hshows⟩ := shows_of_mem_shown hx
  obtain ⟨member, hnode, hpublic⟩ := exists_member_of_shows hshows
  have hurl : loc.url? x.member = some url := by
    rw [url?, hnode]
    simp [Entity.parent?_of_mem_members hmember, hpage]
  have hanchor : anchor? x.member = some (memberAnchor x.member) := by
    rw [anchor?, hnode]
  rw [link?, if_pos hpublic, hurl, hanchor, Option.map_some]

theorem wantedAnchor_of_ne_nil {x : Shown} (hx : x ∈ shown e) (hne : memberAnchor x.member ≠ []) :
    wantedAnchor x.member = memberAnchor x.member := by
  obtain ⟨member, hnode, -⟩ := exists_member_of_shows (shows_of_mem_shown hx).2
  rw [wantedAnchor, anchor?, hnode]
  simp [nonempty, hne]

theorem withAnchor_eq_iff {url wanted anchor : Text} :
    withAnchor url (some wanted) = url ++ '#' :: anchor ↔ wanted ≠ [] ∧ wanted = anchor := by
  cases wanted with
  | nil => simp [withAnchor]
  | cons c wanted => simp [withAnchor]

/-- The link to a member leads to its heading exactly if the anchor that it asks for is not empty
and has not been taken by the title of the page or by a heading before. -/
theorem link?_eq_iff_of_shown {loc : Location} {url : Text} {before after : List Shown} {x : Shown}
    (hpage : loc.pageUrl? e = some url) (hshown : shown e = before ++ x :: after) :
    loc.link? x.member = some (url ++ '#' :: x.anchor) ↔
      memberAnchor x.member ≠ [] ∧ memberAnchor x.member ∉
        Naming.titleAnchor (Signature.plainName e) :: before.map Shown.anchor := by
  have hx : x ∈ shown e := by simp [hshown]
  rw [link?_of_shown hpage hx, Option.some.injEq, withAnchor_eq_iff]
  refine and_congr_right fun hne ↦ ?_
  rw [anchor_of_shown hshown, wantedAnchor_of_ne_nil hx hne, eq_comm,
    Naming.uniqueAnchor_eq_self_iff]

/-! ### Headings -/

theorem heading_of_enumValue {site : Site} {anchor : Text} {lines : List Text}
    {progress progress' : Doc.Progress}
    (hrun : (enumValue site m anchor).runOn progress = (.ok lines, progress')) :
    memberHeading (memberTitle m .values) anchor m.info.isDeprecated <+: lines := by
  obtain ⟨doc, _, -, hrun⟩ := ExceptT.runOn_bind_eq_ok _ hrun
  simp only [ExceptT.runOn_pure, Prod.mk.injEq, Except.ok.injEq] at hrun
  rw [← hrun.1, List.append_assoc]
  exact List.prefix_append _ _

theorem heading_of_member {site : Site} {node : Model.Member} {s : Section} {anchor : Text}
    {lines : List Text} {progress progress' : Doc.Progress}
    (hrun : (member site m node s anchor).runOn progress = (.ok lines, progress')) :
    memberHeading (memberTitle m s) anchor m.info.isDeprecated (memberBadges node) <+: lines := by
  obtain ⟨doc, _, -, hrun⟩ := ExceptT.runOn_bind_eq_ok _ hrun
  obtain ⟨code, _, -, hrun⟩ := ExceptT.runOn_bind_eq_ok _ hrun
  simp only [ExceptT.runOn_pure, Prod.mk.injEq, Except.ok.injEq] at hrun
  rw [← hrun.1]
  simp only [List.append_assoc]
  exact List.prefix_append _ _

/-- The heading of a member as a page may show it, with its title and its anchor. -/
def IsHeading (x : Shown) (lines : List Text) : Prop :=
  ∃ badges, lines = memberHeading (memberTitle x.member x.group) x.anchor
    x.member.info.isDeprecated badges

/-- What a page shows of a member begins with its heading. -/
theorem heading_of_sectionMember {site : Site} {x : Shown} {lines : List Text}
    {progress progress' : Doc.Progress} (hx : x.group.shows x.member = true)
    (hrun : (sectionMember site x.group x.member x.anchor).runOn progress =
      (.ok lines, progress')) :
    ∃ heading, IsHeading x heading ∧ heading <+: lines := by
  obtain ⟨node, hnode, -⟩ := exists_member_of_shows hx
  obtain ⟨s, m, anchor⟩ := x
  simp only at hnode hrun
  cases s with
  | values => exact ⟨_, ⟨[], rfl⟩, heading_of_enumValue hrun⟩
  | _ =>
    simp only [sectionMember, hnode] at hrun
    exact ⟨_, ⟨memberBadges node, rfl⟩, heading_of_member hrun⟩

/-- The members of a container as its page shows them have the headings of all that is shown. -/
theorem heading_of_members {site : Site} {lines : List Text} {progress progress' : Doc.Progress}
    (hrun : (members site e [Naming.titleAnchor (Signature.plainName e)]).runOn progress =
      (.ok lines, progress')) {x : Shown} (hx : x ∈ shown e) :
    ∃ heading, IsHeading x heading ∧ heading <:+: lines := by
  obtain ⟨sections, _, hsections, hrun⟩ := ExceptT.runOn_bind_eq_ok _ hrun
  simp only [ExceptT.runOn_pure, Prod.mk.injEq, Except.ok.injEq] at hrun
  rw [← hrun.1]
  have hshows := (shows_of_mem_shown hx).2
  rw [shown, shownIn, List.mem_flatMap] at hx
  obtain ⟨⟨s, anchored⟩, hsection, hmember⟩ := hx
  obtain ⟨⟨m, anchor⟩, hpair, rfl⟩ := List.mem_map.mp hmember
  obtain ⟨block, hblock, _, _, hrun⟩ := ExceptT.exists_result_of_runOn_mapM hsections hsection
  obtain ⟨blocks, _, hblocks, hrun⟩ := ExceptT.runOn_bind_eq_ok _ hrun
  simp only [ExceptT.runOn_pure, Prod.mk.injEq, Except.ok.injEq] at hrun
  obtain ⟨lines, hlines, _, _, hrun'⟩ := ExceptT.exists_result_of_runOn_mapM hblocks hpair
  obtain ⟨heading, hheading, hbegin⟩ :=
    heading_of_sectionMember (x := ⟨s, m, anchor⟩) hshows hrun'
  have hlast : blocks.flatten <:+: block := by
    rw [← hrun.1]
    exact (List.suffix_append _ _).isInfix
  exact ⟨heading, hheading, ((hbegin.isInfix.trans (List.infix_of_mem_flatten hlines)).trans
    hlast).trans (List.infix_of_mem_flatten hblock)⟩

/-! ### Pages -/

/-- The link to a member leads to its heading. -/
def LeadsToHeading (loc : Location) (url : Text) (x : Shown) : Prop :=
  loc.link? x.member = some (url ++ '#' :: x.anchor)

/-- All links to the members of a page lead to their headings exactly if the anchors that the
members ask for are not empty and differ from each other and from that of the title. -/
theorem leadsToHeading_all_iff {loc : Location} {url : Text} (hpage : loc.pageUrl? e = some url) :
    (∀ x ∈ shown e, LeadsToHeading loc url x) ↔
      (∀ x ∈ shown e, memberAnchor x.member ≠ []) ∧
        (Naming.titleAnchor (Signature.plainName e) ::
          (shown e).map fun x ↦ memberAnchor x.member).Nodup := by
  have hlink : ∀ x ∈ shown e, LeadsToHeading loc url x ↔
      memberAnchor x.member ≠ [] ∧ wantedAnchor x.member = x.anchor := fun x hx ↦ by
    rw [LeadsToHeading, link?_of_shown hpage hx, Option.some.injEq, withAnchor_eq_iff]
    exact and_congr_right fun hne ↦ by rw [wantedAnchor_of_ne_nil hx hne]
  have hnew := (areNew_shownIn (memberSections e)
    [Naming.titleAnchor (Signature.plainName e)]).all_eq_iff (List.nodup_singleton _)
  rw [← shown, List.forall_mem_map, List.map_map] at hnew
  calc (∀ x ∈ shown e, LeadsToHeading loc url x)
      ↔ ∀ x ∈ shown e, memberAnchor x.member ≠ [] ∧ wantedAnchor x.member = x.anchor :=
        forall₂_congr hlink
    _ ↔ (∀ x ∈ shown e, memberAnchor x.member ≠ []) ∧
          ∀ x ∈ shown e, wantedAnchor x.member = x.anchor := by
        simp only [imp_and, forall_and]
    _ ↔ _ := by
        refine and_congr_right fun hne ↦ hnew.trans ?_
        rw [List.singleton_append, Function.comp_def, List.map_congr_left fun x hx ↦
          wantedAnchor_of_ne_nil hx (hne x hx)]

/-- **Links to members.** On the page of a container the link to a member leads to its heading
exactly if the anchor that it asks for is not empty and has been taken neither by the title nor by
a heading before; all links do exactly if these anchors are not empty and all different. -/
theorem links_lead_to_headings_iff {site : Site} {url : Text}
    (hpage : site.location.pageUrl? e = some url) :
    (∀ before x after, shown e = before ++ x :: after →
      (LeadsToHeading site.location url x ↔ memberAnchor x.member ≠ [] ∧ memberAnchor x.member ∉
        Naming.titleAnchor (Signature.plainName e) :: before.map Shown.anchor)) ∧
    ((∀ x ∈ shown e, LeadsToHeading site.location url x) ↔
      (∀ x ∈ shown e, memberAnchor x.member ≠ []) ∧
        (Naming.titleAnchor (Signature.plainName e) ::
          (shown e).map fun x ↦ memberAnchor x.member).Nodup) ∧
    ∀ progress lines progress',
      (members site e [Naming.titleAnchor (Signature.plainName e)]).runOn progress =
        (.ok lines, progress') →
      ∀ x ∈ shown e, ∃ heading, IsHeading x heading ∧ heading <:+: lines :=
  ⟨fun _ _ _ hshown ↦ link?_eq_iff_of_shown hpage hshown, leadsToHeading_all_iff hpage,
    fun _ _ _ hrun _ hx ↦ heading_of_members hrun hx⟩

/-- A class with a method of its own name. -/
def namesake : Entity where
  place := .container 0 0 0
  node := .container
    { name := "Apple", kind := "class", members := [{ name := "apple", kind := "method" }] }
  outer := [.library { name := "fruit", dirName := "fruit" }, .package { name := "fruit" }]

/-- A site with a page for that class. -/
def namesakeSite : Site where
  model := ⟨[], [], []⟩
  location := { rules := ⟨[], [], [], []⟩, fileNames := [(.container 0 0 0, "Apple")] }
  style := .of [] []
  frameHosts := []
  wrapWidth := 80
  outlineThreshold := none

/-- The link to that method does not lead to its heading. -/
theorem not_leadsToHeading_namesake :
    namesakeSite.location.pageUrl? namesake = some "/api/fruit/Apple" ∧
      ¬∀ x ∈ shown namesake, LeadsToHeading namesakeSite.location "/api/fruit/Apple" x := by
  have hpage : namesakeSite.location.pageUrl? namesake = some "/api/fruit/Apple" := by
    decide +kernel
  refine ⟨hpage, fun hall ↦ ?_⟩
  have hnodup := ((links_lead_to_headings_iff hpage).2.1.mp hall).2
  revert hnodup
  decide +kernel

end Page

end ApiSite
