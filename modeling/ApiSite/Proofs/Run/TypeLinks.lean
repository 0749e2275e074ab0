import ApiSite.Proofs.Run.References
import ApiSite.Proofs.Signature.Links

/-!
# Where the types of signatures lead

The name of a type in a signature is a link where the declaration is public and has an address. That
a declaration has an address says little about its library: this may be private, or the duplicate
of another one, and then a run writes no page for what is in it. So the links of signatures lead to
pages that are written exactly as far as libraries are shown (`exists_page_of_typeLink`).

The addresses are those that a reader finds in the signature, up to the first quotation mark. The
name of a file has none, so this asks only for directories of libraries without one
(`hasPlainAddresses`).
-/

set_option autoImplicit false

namespace ApiSite.Run

open Model Location Signature

variable {site : Site} {rules : Settings.LibraryRules} {e : Entity} {s url address : Text}

/-- The signatures on the page of an entity: its own, and those of the members that it shows, except
values of an enumeration. -/
def pageSignatures (site : Site) (e : Entity) : List Text :=
  match e.node with
  | .container c =>
    Signature.container site c :: (Page.memberSections e).flatMap fun (group, members) ↦
      if group = .values then [] else members.map fun x ↦ Page.memberSignature site x group
  | .topLevel _ => [Page.topLevelSignature site e site.wrapWidth]
  | _ => []

theorem isDeclaration_memberSignature (e : Entity) (group : Page.Section) :
    IsDeclaration site (Page.memberSignature site e group) := by
  unfold Page.memberSignature
  split
  · exact .constructor _ _
  all_goals first
    | exact .field _
    | exact .callable _ _

theorem isDeclaration_of_mem_pageSignatures (hs : s ∈ pageSignatures site e) :
    IsDeclaration site s := by
  unfold pageSignatures at hs
  split at hs
  · rcases List.mem_cons.mp hs with rfl | hs
    · exact .container _
    · obtain ⟨⟨group, members⟩, -, hs⟩ := List.mem_flatMap.mp hs
      simp only at hs
      split at hs
      · exact absurd hs List.not_mem_nil
      · obtain ⟨x, -, rfl⟩ := List.mem_map.mp hs
        exact isDeclaration_memberSignature x group
  · obtain rfl := List.mem_singleton.mp hs
    unfold Page.topLevelSignature
    split
    · exact .callable _ _
    · split
      · exact .typeDefinition _ _
      · exact .variableOf _
  · exact absurd hs List.not_mem_nil

theorem hasLinksTo_of_mem_pageSignatures (hplain : HasPlainAddresses site)
    (hs : s ∈ pageSignatures site e) : HasLinksTo (IsPublicAddress site) s :=
  hasLinksTo_of_isDeclaration hplain (isDeclaration_of_mem_pageSignatures hs)

/-! ### Addresses without quotation marks -/

theorem quote_not_mem_pageFile {m : Model} {l page x : Entity} {file : Text}
    (hdirs : ∀ l ∈ localLibraries m, '"' ∉ (ofModel rules m).dirName l)
    (h : LeadsTo m (ofModel rules m) x l page file) : '"' ∉ file := by
  obtain ⟨p, hp, hl⟩ := h.exists_package
  have hdir := (isSome_libraryDir?_of_pageFile? h.mem h.pageFile).2
  have hquote := hdirs l (mem_localLibraries_of_mem (of_isSome_libraryDir? hp hl hdir).1 hl)
  obtain ⟨name, hname, rfl⟩ :=
    exists_file_of_pageFile? (Entity.library?_of_mem_declarations h.mem) h.pageFile
  have hfile : '"' ∉ name := hname.not_mem rfl
  simp [hquote, hfile]

theorem quote_not_mem_libraryUrl {m : Model} {p l : Entity} (hp : p ∈ m.entities)
    (hl : l ∈ p.libraries) (hdirs : ∀ l ∈ localLibraries m, '"' ∉ (ofModel rules m).dirName l)
    (hurl : (ofModel rules m).url? l = some url) : '"' ∉ url := by
  have hdir := isSome_libraryDir?_of_url? hl hurl
  have hquote := hdirs l (mem_localLibraries_of_mem (of_isSome_libraryDir? hp hl hdir).1 hl)
  obtain ⟨lib, hnode⟩ := Entity.exists_node_of_mem_libraries hl
  rw [url?, hnode] at hurl
  simp only [pageUrl?, hnode] at hurl
  obtain ⟨dir, hnonempty, rfl⟩ := Option.map_eq_some_iff.mp hurl
  obtain ⟨dir', hdir', hnonempty⟩ := Option.bind_eq_some_iff.mp hnonempty
  obtain rfl := dirName_of_libraryDir? hdir'
  unfold nonempty at hnonempty
  split at hnonempty
  · cases hnonempty
  · obtain rfl := Option.some.inj hnonempty
    simp [hquote]

theorem hasPlainAddresses (hlocation : site.location = ofModel rules site.model)
    (hdirs : ∀ l ∈ localLibraries site.model, '"' ∉ site.location.dirName l) :
    HasPlainAddresses site := by
  rintro url ⟨x, hx, -, hurl⟩
  rw [hlocation] at hdirs hurl
  cases hdeclared : isDeclared x with
  | true =>
    obtain ⟨l, page, file, hleads, rfl⟩ := exists_leadsTo hx hdeclared hurl
    simp [quote_not_mem_pageFile hdirs hleads]
  | false =>
    cases hx with
    | package hp =>
      obtain ⟨pkg, hnode⟩ := Entity.exists_node_of_mem_entities hp
      rw [url?, hnode] at hurl
      simp only [pageUrl?, hnode] at hurl
      obtain rfl := Option.some.inj hurl
      decide
    | topic hp ht =>
      rw [url?_topic ht] at hurl
      obtain rfl := Option.some.inj hurl
      have hfile : '"' ∉ Naming.fileName x.name := (isSafeInFile_fileName x.name).not_mem rfl
      simp [hfile]
    | library hp hl => exact quote_not_mem_libraryUrl hp hl hdirs hurl
    | container hp hl hc =>
      obtain ⟨c, hnode⟩ := Entity.exists_node_of_mem_containers hc
      simp [isDeclared, hnode] at hdeclared
    | topLevel hp hl ht =>
      obtain ⟨t, hnode⟩ := Entity.exists_node_of_mem_topLevel ht
      simp [isDeclared, hnode] at hdeclared
    | member hp hl hc hx =>
      obtain ⟨member, hnode⟩ := Entity.exists_node_of_mem_members hx
      simp [isDeclared, hnode] at hdeclared

/-- **Types lead to pages.** A link in a signature has the address of something public, and if this
lies in a library, it leads to a page that is written exactly if the library is shown. -/
theorem exists_page_of_typeLink (hlocation : site.location = ofModel rules site.model)
    (hdirs : ∀ l ∈ localLibraries site.model, '"' ∉ site.location.dirName l)
    (hs : s ∈ pageSignatures site e) (haddress : address ∈ typeLinks s) :
    ∃ x : Entity, x.IsIn site.model ∧ x.isPublic = true ∧
      site.location.url? x = some address ∧ ∀ l, x.library? = some l →
        ∃ page, shownOn? x = some page ∧ site.location.url? page = some address ∧
          (page ∈ pageEntities site ↔ IsVisible site.location l) := by
  obtain ⟨x, hx, hpublic, hurl⟩ :=
    (hasLinksTo_of_mem_pageSignatures (hasPlainAddresses hlocation hdirs) hs).all address haddress
  exact ⟨x, hx, hpublic, hurl, fun l hl ↦ exists_page_iff hx hurl hl⟩

/-! ### A base in a private library -/

/-- The class `Apple`, which extends the class `Base` of another library. -/
def derivedClass : Container :=
  { name := "Apple", kind := "class"
    supertype := some (.mk "Base" [] false .null .null (some (.container 0 1 0))) }

def derivedLibrary : Library := { name := "kit", dirName := "kit", containers := [derivedClass] }

/-- The private library of the class `Base`. -/
def innerLibrary : Library :=
  { name := "inner", isPublic := false, dirName := "inner"
    containers := [{ name := "Base", kind := "class" }] }

def derivedPackage : Package := { name := "kit", libraries := [derivedLibrary, innerLibrary] }

/-- A site of the two libraries. -/
def derivedSite : Site :=
  let model : Model := ⟨[derivedPackage], [], []⟩
  ⟨model, ofModel ⟨[], [], [], []⟩ model, .of [] [], [], 80, none⟩

def derivedEntity : Entity :=
  ⟨.container 0 0 0, .container derivedClass, [.library derivedLibrary, .package derivedPackage]⟩

/-- The class leads to its base, which has no page. -/
theorem exists_page_of_typeLink_derived :
    derivedSite.location = ofModel ⟨[], [], [], []⟩ derivedSite.model ∧
    (∀ l ∈ localLibraries derivedSite.model, '"' ∉ derivedSite.location.dirName l) ∧
    Signature.container derivedSite derivedClass ∈ pageSignatures derivedSite derivedEntity ∧
    "/api/inner/Base".toList ∈ typeLinks (Signature.container derivedSite derivedClass) ∧
    "api/inner/Base.md".toList ∉ writtenPaths derivedSite ∧
    ∃ x : Entity, x.IsIn derivedSite.model ∧ x.isPublic = true ∧
      derivedSite.location.url? x = some "/api/inner/Base".toList ∧ ∀ l, x.library? = some l →
        ∃ page, shownOn? x = some page ∧
          derivedSite.location.url? page = some "/api/inner/Base".toList ∧
          (page ∈ pageEntities derivedSite ↔ IsVisible derivedSite.location l) := by
  have hdirs : ∀ l ∈ localLibraries derivedSite.model,
      '"' ∉ derivedSite.location.dirName l := by
    decide +kernel
  have hlink : "/api/inner/Base".toList ∈
      typeLinks (Signature.container derivedSite derivedClass) := by
    decide +kernel
  have hwritten : "api/inner/Base.md".toList ∉ writtenPaths derivedSite := by
    decide +kernel
  exact ⟨rfl, hdirs, List.mem_cons_self, hlink, hwritten,
    exists_page_of_typeLink rfl hdirs (e := derivedEntity) List.mem_cons_self hlink⟩

end ApiSite.Run
