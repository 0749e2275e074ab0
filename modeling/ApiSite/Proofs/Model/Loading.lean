import ApiSite.Model.Loading
import ApiSite.Proofs.Model.Derivation
import Mathlib.Data.List.Induction

/-!
# What a model that was read is like

Reading a document checks the kinds of declarations and gives each library a directory. Linking
fills in places and changes neither. So in a model that was read (`isSound_of_ofValue`) containers,
members and top-level elements are of the kinds that there are, and a library with a name asks for
a directory.

How such a model comes from the declarations of its document is said by `exists_links_of_ofValue`,
and what its containers know of each other by `knowEachOther_of_ofValue`.
-/

set_option autoImplicit false

namespace ApiSite.Model

/-! ### Sound models -/

/-- Declarations of the kinds that there are, and a directory for a name. -/
structure Library.IsSound (l : Library) : Prop where
  containers : ∀ c ∈ l.containers, isContainerKind c.kind = true
  members : ∀ c ∈ l.containers, ∀ x ∈ c.members, isMemberKind x.kind = true
  topLevel : ∀ t ∈ l.topLevel, isTopLevelKind t.kind = true
  dirName : l.name ≠ [] → l.dirName ≠ []

/-- A container of a kind that there is, with such members, that knows of no other one. -/
structure NamedContainer.IsSound (c : NamedContainer) : Prop where
  kind : isContainerKind c.container.kind = true
  members : ∀ x ∈ c.members, isMemberKind x.member.kind = true
  implementers : c.container.implementers = []
  extensions : c.container.extensions = []

/-- A library that is sound as far as it has been read. -/
structure NamedLibrary.IsSound (l : NamedLibrary) : Prop where
  containers : ∀ c ∈ l.containers, c.IsSound
  topLevel : ∀ t ∈ l.library.topLevel, isTopLevelKind t.kind = true
  dirName : l.library.name ≠ [] → l.library.dirName ≠ []

def NamedPackage.IsSound (p : NamedPackage) : Prop := ∀ l ∈ p.libraries, l.IsSound

/-- A model whose libraries are all sound. -/
def IsSound (m : Model) : Prop := ∀ p ∈ m.packages, ∀ l ∈ p.libraries, l.IsSound

/-! ### Reading -/

theorem yields_memberOf (container : Text) (v : Value) :
    Yields (fun x ↦ isMemberKind x.member.kind = true) (memberOf container v) := by
  refine yields_bind fun raw ↦ yields_bind fun info ↦ yields_unless fun hkind ↦ ?_
  exact yields_bind fun signed ↦ yields_pure (by simpa using hkind)

theorem yields_containerOf (v : Value) : Yields NamedContainer.IsSound (containerOf v) := by
  refine yields_bind fun raw ↦ yields_bind fun info ↦ yields_unless fun hkind ↦ ?_
  -- the types that it is written with
  iterate 9 refine yields_bind fun _ ↦ ?_
  refine (Yields.mapM fun v _ ↦ yields_memberOf info.name v).bind fun members hmembers ↦ ?_
  exact yields_pure ⟨by simpa using hkind, hmembers, rfl, rfl⟩

theorem yields_topLevelOf (v : Value) :
    Yields (fun t ↦ isTopLevelKind t.kind = true) (topLevelOf v) := by
  refine yields_bind fun raw ↦ yields_bind fun info ↦ yields_unless fun hkind ↦ ?_
  refine yields_bind fun signed ↦ yields_bind fun aliased ↦ ?_
  exact yields_pure (by simpa using hkind)

theorem yields_libraryOf (v : Value) : Yields NamedLibrary.IsSound (libraryOf v) := by
  refine yields_bind fun raw ↦ yields_bind fun info ↦ yields_bind fun listedContainers ↦ ?_
  refine (Yields.mapM fun v _ ↦ yields_containerOf v).bind fun containers hcontainers ↦ ?_
  refine yields_bind fun listedTopLevel ↦ ?_
  refine (Yields.mapM fun v _ ↦ yields_topLevelOf v).bind fun topLevel htopLevel ↦ ?_
  refine yields_pure ⟨hcontainers, htopLevel, fun hname ↦ ?_⟩
  have hinfo : info.name ≠ [] := by
    unfold Info.withKind at hname
    split at hname <;> exact hname
  simp only
  split
  · simpa [dirNameOf] using hinfo
  · next hdir => simpa using hdir

theorem yields_packageOf (v : Value) : Yields NamedPackage.IsSound (packageOf v) := by
  refine yields_bind fun raw ↦ yields_bind fun info ↦ yields_unless fun _ ↦ ?_
  refine yields_bind fun listedLibraries ↦ ?_
  refine (Yields.mapM fun v _ ↦ yields_libraryOf v).bind fun libraries hlibraries ↦ ?_
  exact yields_bind fun listedTopics ↦ yields_bind fun topics ↦ yields_pure hlibraries

/-- A model is what linking has made of packages that were read. -/
theorem yields_read (doc : Entries) : Yields (fun m ↦ ∃ named placed,
    (∀ p ∈ named, NamedPackage.IsSound p) ∧
    List.Forall₂ ((indexPackages named).LinksPackage (indexPackages named).PlacesContainer)
      named placed ∧ m.packages = derive placed) (read doc) := by
  refine yields_bind fun listed ↦ ?_
  refine (Yields.mapM fun v _ ↦ yields_packageOf v).bind fun named hnamed ↦ ?_
  refine (yields_link named).bind fun packages ⟨placed, hplaced, hpackages⟩ ↦ ?_
  exact yields_bind fun fragments ↦ yields_pure ⟨named, placed, hnamed, hplaced, hpackages⟩

variable {doc : Value} {m : Model}

theorem exists_placed_of_ofValue (h : (ofValue doc).1 = .ok m) : ∃ named placed,
    (∀ p ∈ named, NamedPackage.IsSound p) ∧
    List.Forall₂ ((indexPackages named).LinksPackage (indexPackages named).PlacesContainer)
      named placed ∧ m.packages = derive placed := by
  unfold ofValue at h
  split at h
  · next entries => exact yields_read entries [] m _ (Prod.ext h rfl)
  · cases h

/-! ### Models that were read -/

/-- The declarations of a model that was read are those of a document, with the references between
them linked. -/
theorem exists_links_of_ofValue (h : (ofValue doc).1 = .ok m) : ∃ named,
    (∀ p ∈ named, NamedPackage.IsSound p) ∧
    List.Forall₂ ((indexPackages named).LinksPackage (indexPackages named).LinksContainer)
      named m.packages := by
  obtain ⟨named, placed, hsound, hplaced, hpackages⟩ := exists_placed_of_ofValue h
  exact ⟨named, hsound, hpackages ▸ links_derive hplaced⟩

theorem isSound_of_linksLibrary {ix : Index} {l : NamedLibrary} {l' : Library}
    (h : ix.LinksLibrary ix.LinksContainer l l') (hl : l.IsSound) : l'.IsSound where
  containers c hc := by
    obtain ⟨named, hnamed, hlinks⟩ := h.containers.exists_left hc
    rw [hlinks.info]
    exact (hl.containers named hnamed).kind
  members c hc x hx := by
    obtain ⟨named, hnamed, hlinks⟩ := h.containers.exists_left hc
    obtain ⟨namedMember, hmember, hlinksMember⟩ := hlinks.members.exists_left hx
    rw [hlinksMember.info]
    exact (hl.containers named hnamed).members namedMember hmember
  topLevel t ht := by
    obtain ⟨named, hnamed, hlinks⟩ := h.topLevel.exists_left ht
    rw [hlinks.info]
    exact hl.topLevel named hnamed
  dirName := by
    rw [h.info, h.dirName]
    exact hl.dirName

/-- A model that was read is sound. -/
theorem isSound_of_ofValue (h : (ofValue doc).1 = .ok m) : m.IsSound := by
  obtain ⟨named, hsound, hlinks⟩ := exists_links_of_ofValue h
  intro p hp l hl
  obtain ⟨namedPackage, hpackage, hlinksPackage⟩ := hlinks.exists_left hp
  obtain ⟨namedLibrary, hlibrary, hlinksLibrary⟩ := hlinksPackage.exists_left hl
  exact isSound_of_linksLibrary hlinksLibrary (hsound namedPackage hpackage namedLibrary hlibrary)

/-- In a model that was read containers know of exactly those that name them. -/
theorem knowEachOther_of_ofValue (h : (ofValue doc).1 = .ok m) : KnowEachOther m.packages := by
  obtain ⟨named, placed, hsound, hplaced, hpackages⟩ := exists_placed_of_ofValue h
  rw [hpackages]
  refine knowEachOther_derive fun entry hentry ↦ ?_
  obtain ⟨p, hp, l, hl, hc⟩ := exists_of_mem_placedContainers hentry
  obtain ⟨namedPackage, hpackage, hlinksPackage⟩ := hplaced.exists_left hp
  obtain ⟨namedLibrary, hlibrary, hlinksLibrary⟩ := hlinksPackage.exists_left hl
  obtain ⟨namedContainer, hcontainer, hlinks⟩ := hlinksLibrary.containers.exists_left hc
  have hnew := (hsound namedPackage hpackage namedLibrary hlibrary).containers _ hcontainer
  exact ⟨hlinks.implementers.trans hnew.implementers, hlinks.extensions.trans hnew.extensions⟩

/-! ### Prepared markup -/

/-- What the last entry whose key is spelled like a digest, the case of letters aside, has for
it. -/
def lastFragment (entries : Entries) (digest : Text) : Text :=
  ((entries.reverse.find? fun entry ↦ Text.lower entry.1.shown == digest).map (·.2.shown)).getD []

theorem find?_assignText {name value digest : Text} {l : List (Text × Text)} :
    ((assignText name value l).find? (·.1 == digest)).map (·.2) =
      if name == digest then some value else (l.find? (·.1 == digest)).map (·.2) := by
  induction l with
  | nil =>
    rw [assignText, List.find?_cons]
    cases name == digest <;> rfl
  | cons entry l ih =>
    obtain ⟨key, old⟩ := entry
    rw [assignText]
    cases hkey : key == name with
    | true =>
      obtain rfl := eq_of_beq hkey
      rw [if_pos rfl, List.find?_cons, List.find?_cons]
      cases key == digest <;> rfl
    | false =>
      rw [if_neg Bool.false_ne_true, List.find?_cons, List.find?_cons]
      cases hdigest : key == digest with
      | true =>
        obtain rfl := eq_of_beq hdigest
        have hname : (name == key) = false := by rwa [BEq.comm]
        rw [hname]
        rfl
      | false => exact ih

/-- Of the texts that a name is given one after another, the last one counts. -/
theorem find?_foldl_assignText {digest : Text} {entries : Entries} :
    ((entries.foldl (fun out (k, v) ↦ assignText (Text.lower k.shown) v.shown out) []).find?
        (·.1 == digest)).map (·.2) =
      (entries.reverse.find? fun entry ↦ Text.lower entry.1.shown == digest).map (·.2.shown) := by
  induction entries using List.reverseRecOn with
  | nil => rfl
  | append_singleton entries entry ih =>
    rw [List.foldl_concat, find?_assignText, List.reverse_concat, List.find?_cons, ih]
    cases Text.lower entry.1.shown == digest <;> rfl

theorem yields_fragmentsOf (entries : Entries) :
    Yields (fun fragments ↦ fragments = entries.foldl
      (fun out (k, v) ↦ assignText (Text.lower k.shown) v.shown out) [])
      (fragmentsOf (.mapping entries)) := by
  cases entries with
  | nil => exact yields_pure rfl
  | cons entry entries => exact yields_pure rfl

/-- **The markup that a model has for a digest is that of the last key that is this digest in some
case.** -/
theorem fragment_of_ofValue {doc entries : Entries} (h : (ofValue (.mapping doc)).1 = .ok m)
    (hentries : doc.get "html_fragments" = .mapping entries) (digest : Text) :
    m.fragment digest = lastFragment entries digest := by
  have hyields : Yields (fun m ↦ m.fragments = entries.foldl
      (fun out (k, v) ↦ assignText (Text.lower k.shown) v.shown out) []) (read doc) := by
    refine yields_bind fun listed ↦ yields_bind fun named ↦ yields_bind fun packages ↦ ?_
    rw [hentries]
    exact (yields_fragmentsOf entries).bind fun fragments hfragments ↦ yields_pure hfragments
  have hfragments := hyields [] m _ (Prod.ext h rfl)
  rw [fragment, hfragments, find?_foldl_assignText, lastFragment]

end ApiSite.Model

namespace ApiSite.Value

/-- A mapping with texts as keys. -/
def record (entries : List (String × Value)) : Value :=
  .mapping (entries.map fun (key, value) ↦ (.text key, value))

end ApiSite.Value
