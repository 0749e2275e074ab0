import ApiSite.Proofs.Page.Anchors
import ApiSite.Proofs.Page.Steady
import Mathlib.Data.List.Flatten
import Mathlib.Data.List.Nodup
import Mathlib.Data.List.Perm.Subperm

/-!
# The ids of headings

Three kinds of headings on the page of a container carry ids of their own: those of its sections,
those of its members, and those within the documentation of a member, where the slug of the heading
stands behind the anchor of the member. What the page shows is laid out here line by line, with the
ids that its headings carry (`lines_of_container`).

No two sections have one id (`nodup_sectionIds`), and no two members have one anchor
(`nodup_anchors`), since an anchor is numbered until it is new (`uniqueAnchor_not_mem`). The ids
within documentation are not made new. So all ids of a page differ just if no documentation repeats
a slug and no id of one kind, or of one documentation, is one of another (`heading_ids_differ_iff`).
-/

set_option autoImplicit false

namespace ApiSite

namespace Page

open Model

variable {e : Entity} {used : List Text} {site : Site} {x : Shown} {anchor : Text}

/-! ### Sections and members -/

/-- The id of the heading of a section. -/
def Section.id (s : Section) : Text := "section-" ++ Text.replace " " "-" (Text.lower s.title)

theorem sectionHeading_title (s : Section) :
    sectionHeading s.title = ["## " ++ s.title ++ anchorMark s.id, []] := rfl

/-- The sections that the page of a container shows, with the anchors of their members. -/
def sectionsOf (e : Entity) : List (Section × List (Entity × Text)) :=
  anchorSections (memberSections e) [Naming.titleAnchor (Signature.plainName e)]

/-- The ids of sections. -/
def sectionIds (e : Entity) : List Text := (sectionsOf e).map (·.1.id)

theorem shown_eq_flatMap :
    shown e = (sectionsOf e).flatMap fun (s, members) ↦ members.map fun (m, anchor) ↦
      ⟨s, m, anchor⟩ := rfl

theorem map_fst_anchorSections (sections : List (Section × List Entity)) (used : List Text) :
    (anchorSections sections used).map Prod.fst = sections.map Prod.fst := by
  induction sections generalizing used with
  | nil => rfl
  | cons head sections ih => simp [anchorSections, ih]

/-- No two sections of a page have one id. -/
theorem nodup_sectionIds (e : Entity) : (sectionIds e).Nodup := by
  have hall : (Section.all.map Section.id).Nodup := by decide +kernel
  have hsub : ((sectionsOf e).map Prod.fst).Sublist Section.all := by
    rw [sectionsOf, map_fst_anchorSections]
    exact map_fst_memberSections_sublist e
  have hids : sectionIds e = ((sectionsOf e).map Prod.fst).map Section.id := by
    rw [List.map_map]
    rfl
  rw [hids]
  exact hall.sublist (hsub.map Section.id)

/-- Anchors that are made new differ from each other and from those used before. -/
theorem AreNew.nodup {l : List (Entity × Text)} (hnew : AreNew used l) (hused : used.Nodup) :
    (used ++ l.map Prod.snd).Nodup := by
  induction l generalizing used with
  | nil => simpa using hused
  | cons head l ih =>
    obtain ⟨m, anchor⟩ := head
    obtain ⟨rfl, hrest⟩ := hnew
    rw [List.map_cons, List.append_cons]
    refine ih hrest ?_
    rw [← List.concat_eq_append]
    exact List.Nodup.concat (Naming.uniqueAnchor_not_mem _ _) hused

/-- No two members of a page have one anchor, and none has that of the title. -/
theorem nodup_anchors (e : Entity) :
    (Naming.titleAnchor (Signature.plainName e) :: (shown e).map Shown.anchor).Nodup := by
  have hnew := areNew_shownIn (memberSections e) [Naming.titleAnchor (Signature.plainName e)]
  have hnodup := hnew.nodup (List.nodup_singleton _)
  rwa [← shown, List.map_map] at hnodup

/-! ### Documentation -/

/-- A line of a member's documentation on a page: what it says, and the slug in its id if it is a
heading outside code blocks that has one. -/
structure DocLine where
  front : Text
  slug : Option Text

/-- A line of documentation below a member with an anchor. -/
def DocLine.text (anchor : Text) (l : DocLine) : Text :=
  l.front ++ (l.slug.map fun slug ↦ anchorMark (anchor ++ '-' :: slug)).getD []

/-- A heading, whose slug is what it says; one without letters and digits has none. -/
def DocLine.heading (front : Text) : DocLine :=
  ⟨front, Location.nonempty (Naming.anchor front)⟩

/-- A heading line below the heading of a member, without an id. -/
def lowered (marks line : Text) : Text :=
  let line := Text.substituteFirst dropAnchor line
  if marks.length ≤ 4 then "##" ++ line else line

/-- The lines of a member's documentation, from within a code block or outside. -/
def docLinesFrom : (inFence : Bool) → List Text → List DocLine
  | _, [] => []
  | inFence, line :: lines =>
    let inFence := inFence != isFence line
    let docLine := match inFence, headingMarks? line with
      | false, some marks => DocLine.heading (lowered marks line)
      | _, _ => ⟨line, none⟩
    docLine :: docLinesFrom inFence lines

/-- The lines of a member's documentation. -/
def docLines (doc : Text) : List DocLine := docLinesFrom false (Text.lines doc)

/-- The slugs in the ids of a documentation's headings. -/
def slugs (doc : Text) : List Text := (docLines doc).filterMap DocLine.slug

theorem lowerHeading_eq (anchor marks line : Text) :
    lowerHeading anchor marks line = (DocLine.heading (lowered marks line)).text anchor := by
  rw [lowerHeading, DocLine.text, DocLine.heading, Location.nonempty]
  change (if (Naming.anchor (lowered marks line)).isEmpty then lowered marks line else _) = _
  split
  · simp
  · rfl

theorem lowerHeadingsFrom_eq (anchor : Text) (inFence : Bool) (lines : List Text) :
    lowerHeadingsFrom anchor inFence lines =
      (docLinesFrom inFence lines).map (DocLine.text anchor) := by
  induction lines generalizing inFence with
  | nil => rfl
  | cons line lines ih =>
    rw [lowerHeadingsFrom, docLinesFrom, List.map_cons, ih]
    congr 1
    cases inFence != isFence line with
    | true => simp [DocLine.text]
    | false =>
      cases headingMarks? line with
      | none => simp [DocLine.text]
      | some marks => exact lowerHeading_eq anchor marks line

/-- Below a member, a documentation has the lines with the ids of their headings. -/
theorem lowerHeadings_eq (anchor doc : Text) :
    lowerHeadings anchor doc = Text.unlines ((docLines doc).map (DocLine.text anchor)) := by
  rw [lowerHeadings, lowerHeadingsFrom_eq, docLines]

/-! ### Pages -/

/-- The texts that a step of rendering answers; none where it fails. -/
def answer {α : Type} (step : Doc.Rendering (List α)) : List α :=
  (step.runOn {}).1.toOption.getD []

theorem answer_eq {α : Type} {step : Doc.Rendering (List α)} (hsteady : Doc.IsSteady step)
    {l : List α} {p p' : Doc.Progress} (hrun : step.runOn p = (.ok l, p')) : answer step = l := by
  rw [answer, hsteady.answer {} p, hrun]
  rfl

theorem answers_eq {α β : Type} {step : α → Doc.Rendering (List β)}
    (hsteady : ∀ a, Doc.IsSteady (step a)) {l : List α} {results : List (List β)}
    {p p' : Doc.Progress} (hrun : (l.mapM step).runOn p = (.ok results, p')) :
    results = l.map fun a ↦ answer (step a) := by
  induction l generalizing results p p' with
  | nil =>
    cases hrun
    rfl
  | cons a l ih =>
    rw [List.mapM_cons] at hrun
    obtain ⟨first, _, hfirst, hrun⟩ := ExceptT.runOn_bind_eq_ok _ hrun
    obtain ⟨rest, _, hrest, hrun⟩ := ExceptT.runOn_bind_eq_ok _ hrun
    simp only [ExceptT.runOn_pure, Prod.mk.injEq, Except.ok.injEq] at hrun
    rw [← hrun.1, List.map_cons, answer_eq (hsteady a) hfirst, ih hrest]

/-- The documentation of an entity. -/
def docOf (site : Site) (e : Entity) : Text := answer (Doc.render site e)

/-- What a page shows of a member. -/
def memberLines (site : Site) (x : Shown) : List Text :=
  answer (sectionMember site x.group x.member x.anchor)

/-- What a page shows of the members of a container. -/
def sectionLines (site : Site) (e : Entity) : List Text :=
  (sectionsOf e).flatMap fun (s, members) ↦
    ["## " ++ s.title ++ anchorMark s.id, []] ++
      members.flatMap fun (m, anchor) ↦ memberLines site ⟨s, m, anchor⟩

/-- Some lines show a member: its heading with its anchor, and its documentation with the ids of
the headings in it. -/
def IsLaidOut (site : Site) (x : Shown) (lines : List Text) : Prop :=
  ∃ heading above below, IsHeading x heading ∧
    lines = heading ++ above ++
      paragraph (Text.unlines ((docLines (docOf site x.member)).map (DocLine.text x.anchor))) ++
      below

theorem doc_of_memberDoc {lines : List Text} {p p' : Doc.Progress}
    (hrun : (memberDoc site e anchor).runOn p = (.ok lines, p')) :
    lines = paragraph (Text.unlines ((docLines (docOf site e)).map (DocLine.text anchor))) := by
  obtain ⟨doc, _, hdoc, hrun⟩ := ExceptT.runOn_bind_eq_ok _ hrun
  simp only [ExceptT.runOn_pure, Prod.mk.injEq, Except.ok.injEq] at hrun
  rw [← hrun.1, docOf, answer_eq (Doc.isSteady_render site e) hdoc, lowerHeadings_eq]

theorem isLaidOut_of_enumValue {lines : List Text} {p p' : Doc.Progress}
    (hrun : (enumValue site e anchor).runOn p = (.ok lines, p')) :
    IsLaidOut site ⟨.values, e, anchor⟩ lines := by
  obtain ⟨doc, _, hdoc, hrun⟩ := ExceptT.runOn_bind_eq_ok _ hrun
  simp only [ExceptT.runOn_pure, Prod.mk.injEq, Except.ok.injEq] at hrun
  refine ⟨_, deprecationOf e, [], ⟨[], rfl⟩, ?_⟩
  rw [← hrun.1, doc_of_memberDoc hdoc, List.append_nil]

theorem isLaidOut_of_member {node : Member} {s : Section} {lines : List Text}
    {p p' : Doc.Progress} (hrun : (member site e node s anchor).runOn p = (.ok lines, p')) :
    IsLaidOut site ⟨s, e, anchor⟩ lines := by
  obtain ⟨doc, _, hdoc, hrun⟩ := ExceptT.runOn_bind_eq_ok _ hrun
  obtain ⟨code, _, -, hrun⟩ := ExceptT.runOn_bind_eq_ok _ hrun
  simp only [ExceptT.runOn_pure, Prod.mk.injEq, Except.ok.injEq] at hrun
  refine ⟨_, signature (memberSignature site e s) ++ deprecationOf e,
    origin site node ++ annotations e ++ sourceLink node.sourceUrl ++ code,
    ⟨memberBadges node, rfl⟩, ?_⟩
  rw [← hrun.1, doc_of_memberDoc hdoc]
  simp only [List.append_assoc]

theorem isLaidOut_of_sectionMember {lines : List Text} {p p' : Doc.Progress}
    (hx : x.group.shows x.member = true)
    (hrun : (sectionMember site x.group x.member x.anchor).runOn p = (.ok lines, p')) :
    IsLaidOut site x lines := by
  obtain ⟨node, hnode, -⟩ := exists_member_of_shows hx
  obtain ⟨s, m, anchor⟩ := x
  simp only at hnode hrun
  cases s with
  | values => exact isLaidOut_of_enumValue hrun
  | _ =>
    simp only [sectionMember, hnode] at hrun
    exact isLaidOut_of_member hrun

/-- What is shown of members is laid out section by section. -/
theorem lines_of_members {lines : List Text} {p p' : Doc.Progress}
    (hrun : (members site e [Naming.titleAnchor (Signature.plainName e)]).runOn p =
      (.ok lines, p')) :
    lines = sectionLines site e ∧ ∀ x ∈ shown e, IsLaidOut site x (memberLines site x) := by
  obtain ⟨blocks, _, hblocks, hrun⟩ := ExceptT.runOn_bind_eq_ok _ hrun
  simp only [ExceptT.runOn_pure, Prod.mk.injEq, Except.ok.injEq] at hrun
  have hsteady (s : Section) (x : Entity × Text) := isSteady_sectionMember site x.1 s x.2
  constructor
  · have hsteady' (part : Section × List (Entity × Text)) :=
      (Doc.IsSteady.mapM (hsteady part.1) part.2).bind_pure fun blocks ↦
        sectionHeading part.1.title ++ blocks.flatten
    rw [← hrun.1, answers_eq hsteady' hblocks, ← List.flatMap_def, sectionLines]
    refine List.flatMap_congr fun part hsection ↦ ?_
    obtain ⟨s, anchored⟩ := part
    obtain ⟨block, -, _, _, hblock⟩ := ExceptT.exists_result_of_runOn_mapM hblocks hsection
    rw [answer_eq (hsteady' (s, anchored)) hblock]
    obtain ⟨parts, _, hparts, hblock⟩ := ExceptT.runOn_bind_eq_ok _ hblock
    simp only [ExceptT.runOn_pure, Prod.mk.injEq, Except.ok.injEq] at hblock
    rw [← hblock.1, sectionHeading_title, answers_eq (hsteady s) hparts, ← List.flatMap_def]
    rfl
  · intro x hx
    have hshows := (shows_of_mem_shown hx).2
    rw [shown_eq_flatMap, List.mem_flatMap] at hx
    obtain ⟨⟨s, anchored⟩, hsection, hmember⟩ := hx
    obtain ⟨⟨m, anchor⟩, hpair, rfl⟩ := List.mem_map.mp hmember
    obtain ⟨block, -, _, _, hblock⟩ := ExceptT.exists_result_of_runOn_mapM hblocks hsection
    obtain ⟨parts, _, hparts, -⟩ := ExceptT.runOn_bind_eq_ok _ hblock
    obtain ⟨part, -, _, _, hpart⟩ := ExceptT.exists_result_of_runOn_mapM hparts hpair
    rw [memberLines, answer_eq (hsteady s (m, anchor)) hpart]
    exact isLaidOut_of_sectionMember (x := ⟨s, m, anchor⟩) hshows hpart

/-- The page of a container ends with its members. -/
theorem lines_of_container {c : Container} {page : Text} {p p' : Doc.Progress}
    (hrun : (container site e c).runOn p = (.ok page, p')) :
    (∃ front, page = join (front ++ sectionLines site e)) ∧
      ∀ x ∈ shown e, IsLaidOut site x (memberLines site x) := by
  obtain ⟨threshold, _, -, hrun⟩ := ExceptT.runOn_bind_eq_ok _ hrun
  obtain ⟨outline, _, -, hrun⟩ := ExceptT.runOn_bind_eq_ok _ hrun
  obtain ⟨doc, _, -, hrun⟩ := ExceptT.runOn_bind_eq_ok _ hrun
  obtain ⟨lines, _, hlines, hrun⟩ := ExceptT.runOn_bind_eq_ok _ hrun
  simp only [ExceptT.runOn_pure, Prod.mk.injEq, Except.ok.injEq] at hrun
  obtain ⟨hsections, hmembers⟩ := lines_of_members hlines
  exact ⟨⟨_, by rw [← hrun.1, hsections]⟩, hmembers⟩

/-! ### Ids -/

/-- The ids of the headings in the documentation of a member. -/
def docIds (site : Site) (x : Shown) : List Text :=
  (slugs (docOf site x.member)).map fun slug ↦ x.anchor ++ '-' :: slug

/-- The ids of all headings that the page of a container shows with its members, in order. -/
def headingIds (site : Site) (e : Entity) : List Text :=
  (sectionsOf e).flatMap fun (s, members) ↦
    s.id :: members.flatMap fun (m, anchor) ↦ anchor :: docIds site ⟨s, m, anchor⟩

theorem nodup_docIds_iff : (docIds site x).Nodup ↔ (slugs (docOf site x.member)).Nodup := by
  refine List.nodup_map_iff fun slug slug' h ↦ ?_
  exact (List.cons.inj (List.append_cancel_left h)).2

/-- The ids are those of sections, those of members, and those within documentation. -/
theorem headingIds_perm : List.Perm (headingIds site e)
    (sectionIds e ++ ((shown e).map Shown.anchor ++ (shown e).flatMap (docIds site))) := by
  let shownOf (part : Section × List (Entity × Text)) : List Shown :=
    part.2.map fun x ↦ ⟨part.1, x.1, x.2⟩
  let idsOf (x : Shown) : List Text := [x.anchor] ++ docIds site x
  have hids : headingIds site e =
      (sectionsOf e).flatMap fun part ↦ [part.1.id] ++ (shownOf part).flatMap idsOf := by
    simp only [headingIds, shownOf, idsOf, List.flatMap_map, List.singleton_append]
  have hshown : (sectionsOf e).flatMap (fun part ↦ (shownOf part).flatMap idsOf) =
      (shown e).flatMap idsOf := by
    rw [shown_eq_flatMap, List.flatMap_assoc]
  rw [hids, sectionIds, List.map_eq_flatMap, List.map_eq_flatMap]
  refine (List.flatMap_append_perm _ _ _).symm.trans (List.Perm.append_left _ ?_)
  rw [hshown]
  exact (List.flatMap_append_perm _ _ _).symm

/-- No heading has an id that another one has: no two in one documentation, no two in different
ones, none of a member and of a section, and none within documentation and outside. -/
structure AreIdsApart (site : Site) (e : Entity) : Prop where
  within : ∀ x ∈ shown e, (slugs (docOf site x.member)).Nodup
  between : (shown e).Pairwise fun x y ↦ (docIds site x).Disjoint (docIds site y)
  anchors : ∀ x ∈ shown e, x.anchor ∉ sectionIds e
  sections : ∀ x ∈ shown e, ∀ id ∈ docIds site x, id ∉ sectionIds e
  members : ∀ x ∈ shown e, ∀ id ∈ docIds site x, id ∉ (shown e).map Shown.anchor

theorem nodup_headingIds_iff : (headingIds site e).Nodup ↔ AreIdsApart site e := by
  have hanchors := (List.nodup_cons.mp (nodup_anchors e)).2
  have hdocs : ((shown e).flatMap (docIds site)).Nodup ↔
      (∀ x ∈ shown e, (slugs (docOf site x.member)).Nodup) ∧
        (shown e).Pairwise fun x y ↦ (docIds site x).Disjoint (docIds site y) := by
    rw [List.nodup_flatMap]
    exact and_congr_left' (forall₂_congr fun _ _ ↦ nodup_docIds_iff)
  rw [headingIds_perm.nodup_iff, List.nodup_append', List.nodup_append', hdocs]
  constructor
  · rintro ⟨-, ⟨-, ⟨hwithin, hbetween⟩, hmembers⟩, hsections⟩
    have hmem {x : Shown} (hx : x ∈ shown e) {id : Text} (hid : id ∈ docIds site x) :
        id ∈ (shown e).flatMap (docIds site) := List.mem_flatMap.mpr ⟨x, hx, hid⟩
    exact {
      within := hwithin
      between := hbetween
      anchors := fun x hx hid ↦
        hsections hid (List.mem_append_left _ (List.mem_map_of_mem hx))
      sections := fun x hx id hid hsection ↦
        hsections hsection (List.mem_append_right _ (hmem hx hid))
      members := fun x hx id hid hanchor ↦ hmembers hanchor (hmem hx hid) }
  · intro h
    refine ⟨nodup_sectionIds e, ⟨hanchors, ⟨h.within, h.between⟩, fun id hanchor hid ↦ ?_⟩,
      fun id hsection hid ↦ ?_⟩
    · obtain ⟨x, hx, hid⟩ := List.mem_flatMap.mp hid
      exact h.members x hx id hid hanchor
    · rcases List.mem_append.mp hid with hanchor | hid
      · obtain ⟨x, hx, rfl⟩ := List.mem_map.mp hanchor
        exact h.anchors x hx hsection
      · obtain ⟨x, hx, hid⟩ := List.mem_flatMap.mp hid
        exact h.sections x hx id hid hsection

/-- **The ids of headings.** On the page of a container, where members are shown section by section,
each heading of a section has the id of the section, each heading of a member its anchor, and each
heading of a member's documentation its slug behind the anchor. No two sections have one id and no
two members one anchor. All ids differ just if no documentation repeats a slug, no two
documentations have an id in common, and no id of one kind is one of another. -/
theorem heading_ids_differ_iff {c : Container} {page : Text} {p p' : Doc.Progress}
    (hrun : (container site e c).runOn p = (.ok page, p')) :
    (∃ front, page = join (front ++ sectionLines site e)) ∧
      (∀ x ∈ shown e, IsLaidOut site x (memberLines site x)) ∧
      (sectionIds e).Nodup ∧ ((shown e).map Shown.anchor).Nodup ∧
      ((headingIds site e).Nodup ↔ AreIdsApart site e) := by
  obtain ⟨hpage, hmembers⟩ := lines_of_container hrun
  exact ⟨hpage, hmembers, nodup_sectionIds e, (List.nodup_cons.mp (nodup_anchors e)).2,
    nodup_headingIds_iff⟩

/-- A class with a method in whose documentation two headings are equal. -/
def repetitive : Container where
  name := "Apple"
  kind := "class"
  members := [{ name := "peel", kind := "method", documentation := "# A\n\n# A" }]

def repetitiveEntity : Entity where
  place := .container 0 0 0
  node := .container repetitive
  outer := [.library { name := "fruit", dirName := "fruit" }, .package { name := "fruit" }]

/-- A site with a page for that class. -/
def repetitiveSite : Site := { namesakeSite with outlineThreshold := some (.int 50) }

/-- On the page of that class two headings have one id. -/
theorem not_areIdsApart_repetitive :
    (∃ page p', (container repetitiveSite repetitiveEntity repetitive).runOn {} = (.ok page, p')) ∧
      ¬(headingIds repetitiveSite repetitiveEntity).Nodup := by
  have hrun : ∃ page p',
      (container repetitiveSite repetitiveEntity repetitive).runOn {} = (.ok page, p') := by
    have hok : ((container repetitiveSite repetitiveEntity repetitive).runOn {}).1.isOk = true := by
      decide +kernel
    generalize (container repetitiveSite repetitiveEntity repetitive).runOn {} = result at hok ⊢
    obtain ⟨error | page, p'⟩ := result
    · cases hok
    · exact ⟨page, p', rfl⟩
  refine ⟨hrun, fun hnodup ↦ ?_⟩
  obtain ⟨page, p', hrun⟩ := hrun
  have hwithin := ((heading_ids_differ_iff hrun).2.2.2.2.mp hnodup).within
  revert hwithin
  decide +kernel

end Page

end ApiSite
