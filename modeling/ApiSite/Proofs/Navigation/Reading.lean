import ApiSite.Navigation
import ApiSite.Proofs.Scaffold.Literals

/-!
# Reading the navigation

The file of the navigation is read again here, with no regard to how it was written. It consists of
objects in braces with fields, and the values of the fields that matter are quoted (`tokens`). An
object with a field `base` is a group, and an object with a field `link` is an item. What a link
says counts from the `base` of the objects around it (`findings`).

Reading what has been written gives back the groups and the items with their names, whatever
characters are in these (`findings_render`).
-/

set_option autoImplicit false

namespace ApiSite.Navigation

/-! ### Tokens -/

/-- What the file of the navigation consists of. -/
inductive Token where
  | opening
  | closing
  /-- A quoted value with the word before it. -/
  | field (key value : Text)
  deriving DecidableEq, Repr

/-- What has been read of a field. -/
inductive Mode where
  | outside (word : Text)
  | inside (word value : Text)
  /-- Behind a backslash in a quoted value. -/
  | escaped (word value : Text)
  deriving DecidableEq, Repr

/-- Reads a character. A word counts up to the next character that is no letter, colon or space. -/
def step : Mode → Char → List Token × Mode
  | .outside word, c =>
    if c = '\'' then ([], .inside word [])
    else if c = '\x7b' then ([.opening], .outside [])
    else if c = '\x7d' then ([.closing], .outside [])
    else if c.isAlpha then ([], .outside (word ++ [c]))
    else if c = ':' ∨ c = ' ' then ([], .outside word)
    else ([], .outside [])
  | .inside word value, c =>
    if c = '\\' then ([], .escaped word value)
    else if c = '\'' then ([.field word value], .outside [])
    else ([], .inside word (value ++ [c]))
  | .escaped word value, c => ([], .inside word (value ++ [c]))

/-- Reads a text: its tokens, and what has been read of the next one. -/
def scan : Mode → Text → List Token × Mode
  | mode, [] => ([], mode)
  | mode, c :: t =>
    let (first, mode) := step mode c
    let (rest, mode) := scan mode t
    (first ++ rest, mode)

/-- The tokens of a text. -/
def tokens (t : Text) : List Token := (scan (.outside []) t).1

/-! ### Groups and items -/

/-- What the navigation shows. -/
inductive Finding where
  | group (name url : Text)
  /-- An item with the address that its link counts from. -/
  | item (name base link : Text)
  deriving DecidableEq, Repr

/-- What is known of an object: its name and the address that links in it count from. -/
structure Frame where
  name : Text := []
  base : Text := []

/-- Goes through tokens, with what is known of the objects around, the innermost one first. -/
def findingsFrom : List Frame → List Token → List Finding
  | _, [] => []
  | frames, .opening :: ts =>
    findingsFrom ({ base := (frames.headD {}).base } :: frames) ts
  | frames, .closing :: ts => findingsFrom frames.tail ts
  | frames, .field key value :: ts =>
    let frame := frames.headD {}
    if key = "text".toList then findingsFrom ({ frame with name := value } :: frames.tail) ts
    else if key = "base".toList then
      .group frame.name value :: findingsFrom ({ frame with base := value } :: frames.tail) ts
    else if key = "link".toList then .item frame.name frame.base value :: findingsFrom frames ts
    else findingsFrom frames ts

/-- The groups and items of a file. -/
def findings (t : Text) : List Finding := findingsFrom [] (tokens t)

/-! ### Quoted values -/

/-- A character in a quoted value. -/
def quoted (c : Char) : Text :=
  if c = '\\' then ['\\', '\\'] else if c = '\'' then ['\\', '\''] else [c]

theorem literal_eq (t : Text) : Scaffold.literal t = '\'' :: t.flatMap quoted ++ ['\''] := by
  have hquoted : Scaffold.literalQuotation.written = quoted := by
    funext c
    rw [Quotation.written, Scaffold.literalQuotation, Quotation.escapeChar_cons,
      Quotation.escapeChar_cons]
    rfl
  rw [Scaffold.literal_eq, Quotation.escape, hquoted]
  rfl

variable {s t : Text} {ts us : List Token} {mode mode' mode'' : Mode}

theorem scan_cons (mode : Mode) (c : Char) (t : Text) : scan mode (c :: t) =
    ((step mode c).1 ++ (scan (step mode c).2 t).1, (scan (step mode c).2 t).2) := rfl

/-- One piece of text after another. -/
theorem scan_append (hs : scan mode s = (ts, mode')) (ht : scan mode' t = (us, mode'')) :
    scan mode (s ++ t) = (ts ++ us, mode'') := by
  induction s generalizing mode ts with
  | nil =>
    obtain ⟨rfl, rfl⟩ := Prod.mk.inj hs
    exact ht
  | cons c s ih =>
    rw [scan_cons] at hs
    obtain ⟨rfl, hmode⟩ := Prod.mk.inj hs
    have hrest := ih (Prod.ext rfl hmode)
    rw [List.cons_append, scan_cons, hrest, List.append_assoc]

theorem scan_quoted (word value t : Text) :
    scan (.inside word value) (t.flatMap quoted) = ([], .inside word (value ++ t)) := by
  induction t generalizing value with
  | nil => simp [scan]
  | cons c t ih =>
    have hstep : scan (.inside word value) (quoted c) = ([], .inside word (value ++ [c])) := by
      unfold quoted
      by_cases hbackslash : c = '\\'
      · simp [hbackslash, scan, step]
      · by_cases hquote : c = '\''
        · simp [hquote, scan, step]
        · simp [hbackslash, hquote, scan, step]
    rw [List.flatMap_cons, scan_append hstep (ih (value ++ [c]))]
    simp

/-- A quoted value is read as it is, with the word before it. -/
theorem scan_literal (word t : Text) :
    scan (.outside word) (Scaffold.literal t) = ([.field word t], .outside []) := by
  rw [literal_eq]
  have hend : scan (.inside word ([] ++ t)) ['\''] = ([.field word t], .outside []) := rfl
  exact scan_append (scan_quoted word [] t) hend

/-! ### Lines -/

/-- A piece of text that holds some tokens and no part of another one. -/
def Reads (t : Text) (ts : List Token) : Prop := scan (.outside []) t = (ts, .outside [])

instance (t : Text) (ts : List Token) : Decidable (Reads t ts) :=
  inferInstanceAs (Decidable (_ = _))

theorem Reads.append (hs : Reads s ts) (ht : Reads t us) : Reads (s ++ t) (ts ++ us) :=
  scan_append hs ht

theorem reads_flatMap {α : Type} {l : List α} {f : α → Text} {g : α → List Token}
    (h : ∀ a, Reads (f a) (g a)) : Reads (l.flatMap f) (l.flatMap g) := by
  induction l with
  | nil => rfl
  | cons a l ih => exact (h a).append ih

/-- Lines, each with a line feed behind it. -/
def ended (lines : List Text) : Text := lines.flatMap fun line ↦ line ++ ['\n']

theorem ended_append (ls ls' : List Text) : ended (ls ++ ls') = ended ls ++ ended ls' :=
  List.flatMap_append

theorem unlines_concat_nil (ls : List Text) : Text.unlines (ls ++ [[]]) = ended ls := by
  induction ls with
  | nil => rfl
  | cons line ls ih =>
    obtain ⟨next, rest, hrest⟩ := List.exists_cons_of_ne_nil
      (List.append_ne_nil_of_right_ne_nil ls (List.cons_ne_nil [] []))
    rw [List.cons_append, hrest, Text.unlines, Text.join, ← hrest]
    rw [Text.unlines] at ih
    rw [ih, ended, ended, List.flatMap_cons, List.append_assoc]

theorem reads_ended_cons {line : Text} {ls : List Text} (hline : Reads (line ++ ['\n']) ts)
    (hls : Reads (ended ls) us) : Reads (ended (line :: ls)) (ts ++ us) :=
  hline.append hls

/-- A line with a quoted value. -/
theorem reads_fieldLine (start key value : Text)
    (hstart : scan (.outside []) start = ([], .outside key)) :
    Reads (start ++ Scaffold.literal value ++ "," ++ ['\n']) [.field key value] := by
  have hend : Reads (",".toList ++ ['\n']) [] := rfl
  simp only [List.append_assoc]
  exact scan_append hstart (scan_append (scan_literal key value) hend)

theorem scan_spaces (word : Text) (n : Nat) :
    scan (.outside word) (Text.spaces n) = ([], .outside word) := by
  induction n with
  | zero => rfl
  | succ n ih =>
    rw [Text.spaces, List.replicate_succ, scan]
    exact Prod.ext (congrArg Prod.fst ih) (congrArg Prod.snd ih)

/-- The tokens of an item. -/
def itemTokens (i : Item) : List Token :=
  [.opening, .field "text" i.name, .field "link" i.link, .closing]

theorem reads_itemLine (n : Nat) (i : Item) : Reads (itemLine n i ++ ['\n']) (itemTokens i) := by
  have hopening : scan (.outside []) "\x7b text: ".toList =
      ([.opening], .outside "text".toList) := by
    decide +kernel
  have hlink : scan (.outside []) ", link: ".toList = ([], .outside "link".toList) := by
    decide +kernel
  have hclosing : scan (.outside []) (" \x7d,".toList ++ ['\n']) = ([.closing], .outside []) := by
    decide +kernel
  simp only [itemLine, List.append_assoc]
  exact scan_append (scan_spaces [] n) (scan_append hopening (scan_append (scan_literal _ i.name)
    (scan_append hlink (scan_append (scan_literal _ i.link) hclosing))))

theorem reads_items (n : Nat) (items : List Item) :
    Reads (ended (items.map (itemLine n))) (items.flatMap itemTokens) := by
  rw [ended, List.flatMap_map]
  exact reads_flatMap (reads_itemLine n)

/-- The tokens of a section. -/
def sectionTokens (s : Section) : List Token :=
  [.opening, .field "text" s.title] ++ s.items.flatMap itemTokens ++ [.closing]

theorem reads_sectionLines (s : Section) : Reads (ended (sectionLines s)) (sectionTokens s) := by
  have hbrace : Reads ("        \x7b".toList ++ ['\n']) [.opening] := by decide +kernel
  have htitle := reads_fieldLine "          text: " "text" s.title
    (by decide +kernel)
  have hfields : Reads (ended ["          collapsed: true,", "          items: ["]) [] := by
    decide +kernel
  have hclosing : Reads (ended ["          ],", "        \x7d,"]) [.closing] := by decide +kernel
  rw [sectionLines, ended_append, ended_append]
  exact ((reads_ended_cons hbrace (reads_ended_cons htitle hfields)).append
    (reads_items 12 s.items)).append hclosing

/-- The tokens of a library. -/
def libraryTokens (l : LibraryGroup) : List Token :=
  [.opening, .field "text" l.name, .field "base" l.url] ++ itemTokens ⟨"Overview", "index"⟩ ++
    l.sections.flatMap sectionTokens ++ [.closing]

theorem reads_libraryLines (l : LibraryGroup) :
    Reads (ended (libraryLines l)) (libraryTokens l) := by
  have hbrace : Reads ("    \x7b".toList ++ ['\n']) [.opening] := by decide +kernel
  have hname := reads_fieldLine "      text: " "text" l.name
    (by decide +kernel)
  have hurl := reads_fieldLine "      base: " "base" l.url
    (by decide +kernel)
  have hcollapsed : Reads ("      collapsed: true,".toList ++ ['\n']) [] := by decide +kernel
  have hitems : Reads ("      items: [".toList ++ ['\n']) [] := by decide +kernel
  have hoverview := reads_itemLine 8 ⟨"Overview", "index"⟩
  have hsections : Reads (ended (l.sections.flatMap sectionLines))
      (l.sections.flatMap sectionTokens) := by
    rw [ended, List.flatMap_assoc]
    exact reads_flatMap reads_sectionLines
  have hclosing : Reads (ended ["      ],", "    \x7d,"]) [.closing] := by decide +kernel
  have hnothing : Reads (ended []) [] := rfl
  have hopening := reads_ended_cons hbrace (reads_ended_cons hname (reads_ended_cons hurl
    (reads_ended_cons hcollapsed (reads_ended_cons hitems (reads_ended_cons hoverview hnothing)))))
  rw [libraryLines, ended_append, ended_append]
  exact (hopening.append hsections).append hclosing

/-- The tokens of topics. -/
def topicTokens (topics : List Item) : List Token :=
  if topics.isEmpty then []
  else [.opening, .field "text" "Topics"] ++ topics.flatMap itemTokens ++ [.closing]

theorem reads_topicLines (topics : List Item) :
    Reads (ended (topicLines topics)) (topicTokens topics) := by
  unfold topicLines topicTokens
  split
  · rfl
  · have hopening : Reads (ended ["    \x7b", "      text: 'Topics',", "      collapsed: true,",
        "      items: ["]) [.opening, .field "text" "Topics"] := by decide +kernel
    have hclosing : Reads (ended ["      ],", "    \x7d,"]) [.closing] := by decide +kernel
    rw [ended_append, ended_append]
    exact (hopening.append (reads_items 8 topics)).append hclosing

/-- The tokens of a package. -/
def packageTokens (g : PackageGroup) : List Token :=
  g.libraries.flatMap libraryTokens ++ topicTokens g.topics

theorem reads_packageLines (g : PackageGroup) :
    Reads (ended (packageLines g)) (packageTokens g) := by
  have hlibraries : Reads (ended (g.libraries.flatMap libraryLines))
      (g.libraries.flatMap libraryTokens) := by
    rw [ended, List.flatMap_assoc]
    exact reads_flatMap reads_libraryLines
  rw [packageLines, ended_append]
  exact hlibraries.append (reads_topicLines g.topics)

/-- The tokens of the file. -/
def fileTokens (groups : List PackageGroup) : List Token :=
  [.opening, .closing, .field "from" "vitepress", .opening, .field [] "/api/"] ++
    groups.flatMap packageTokens ++ [.closing]

theorem tokens_render (loc : Location) (packages : List Entity) :
    tokens (render loc packages) =
      fileTokens ((packages.filter Location.isLocal).map (packageGroup loc)) := by
  have hopening : Reads (ended ["import type \x7b DefaultTheme \x7d from 'vitepress'", [],
      "export const apiSidebar: DefaultTheme.Sidebar = \x7b", "  '/api/': ["])
      [.opening, .closing, .field "from" "vitepress", .opening, .field [] "/api/"] := by
    decide +kernel
  have hclosing : Reads (ended ["  ],", "\x7d"]) [.closing] := by decide +kernel
  have hgroups (groups : List PackageGroup) : Reads (ended (groups.flatMap packageLines))
      (groups.flatMap packageTokens) := by
    rw [ended, List.flatMap_assoc]
    exact reads_flatMap reads_packageLines
  have hlines (opening groups : List Text) :
      opening ++ groups ++ ["  ],".toList, "\x7d".toList, []] =
        opening ++ groups ++ ["  ],".toList, "\x7d".toList] ++ [[]] := by simp
  simp only [render, hlines, unlines_concat_nil, ended_append]
  have hfile := (hopening.append (hgroups ((packages.filter Location.isLocal).map
    (packageGroup loc)))).append hclosing
  exact congrArg Prod.fst hfile

/-! ### What is found -/

variable {frames : List Frame}

/-- Tokens that show groups and items and leave the objects around as they were. -/
def Finds (frames : List Frame) (ts : List Token) (found : List Finding) : Prop :=
  ∀ rest, findingsFrom frames (ts ++ rest) = found ++ findingsFrom frames rest

theorem Finds.append {found found' : List Finding} (hts : Finds frames ts found)
    (hus : Finds frames us found') : Finds frames (ts ++ us) (found ++ found') := by
  intro rest
  rw [List.append_assoc, hts, hus, List.append_assoc]

theorem finds_flatMap {α : Type} {l : List α} {f : α → List Token} {g : α → List Finding}
    (h : ∀ a, Finds frames (f a) (g a)) : Finds frames (l.flatMap f) (l.flatMap g) := by
  induction l with
  | nil => exact fun _ ↦ rfl
  | cons a l ih => exact (h a).append ih

/-- An item, with the address that links count from here. -/
def itemFinding (frames : List Frame) (i : Item) : Finding :=
  .item i.name (frames.headD {}).base i.link

theorem finds_itemTokens (i : Item) : Finds frames (itemTokens i) [itemFinding frames i] :=
  fun _ ↦ rfl

theorem finds_items (frames : List Frame) (items : List Item) :
    Finds frames (items.flatMap itemTokens) (items.map (itemFinding frames)) := by
  rw [← List.flatMap_singleton' (items.map _), List.flatMap_map]
  exact finds_flatMap finds_itemTokens

theorem finds_sectionTokens (s : Section) :
    Finds frames (sectionTokens s) (s.items.map (itemFinding frames)) := by
  intro rest
  have hitems := finds_items (⟨s.title, (frames.headD {}).base⟩ :: frames) s.items
  have hopening : findingsFrom frames (sectionTokens s ++ rest) =
      findingsFrom (⟨s.title, (frames.headD {}).base⟩ :: frames)
        (s.items.flatMap itemTokens ++ .closing :: rest) := by
    rw [sectionTokens, List.append_assoc, List.append_assoc]
    rfl
  rw [hopening, hitems]
  rfl

/-- The group of a library and its items, of which the first is the page of the library. -/
def libraryFindings (l : LibraryGroup) : List Finding :=
  .group l.name l.url :: .item "Overview" l.url "index" ::
    l.sections.flatMap fun s ↦ s.items.map fun i ↦ .item i.name l.url i.link

theorem finds_libraryTokens (l : LibraryGroup) :
    Finds frames (libraryTokens l) (libraryFindings l) := by
  intro rest
  have hsections : Finds (⟨l.name, l.url⟩ :: frames) (l.sections.flatMap sectionTokens)
      (l.sections.flatMap fun s ↦ s.items.map fun i ↦ .item i.name l.url i.link) :=
    finds_flatMap finds_sectionTokens
  have hopening : findingsFrom frames (libraryTokens l ++ rest) =
      .group l.name l.url :: .item "Overview" l.url "index" ::
        findingsFrom (⟨l.name, l.url⟩ :: frames)
          (l.sections.flatMap sectionTokens ++ .closing :: rest) := by
    rw [libraryTokens, List.append_assoc, List.append_assoc, List.append_assoc]
    rfl
  rw [hopening, hsections]
  rfl

/-- What the navigation of a package shows, where links count from the root. -/
def packageFindings (g : PackageGroup) : List Finding :=
  g.libraries.flatMap libraryFindings ++ g.topics.map fun i ↦ .item i.name [] i.link

theorem finds_topicTokens (topics : List Item) :
    Finds frames (topicTokens topics) (topics.map (itemFinding frames)) := by
  intro rest
  unfold topicTokens
  split
  · next hempty =>
    rw [List.isEmpty_iff.mp hempty]
    rfl
  · have hitems := finds_items (⟨"Topics", (frames.headD {}).base⟩ :: frames) topics
    have hopening : findingsFrom frames (([.opening, .field "text" "Topics"] ++
        topics.flatMap itemTokens ++ [.closing]) ++ rest) =
        findingsFrom (⟨"Topics", (frames.headD {}).base⟩ :: frames)
          (topics.flatMap itemTokens ++ .closing :: rest) := by
      rw [List.append_assoc, List.append_assoc]
      rfl
    rw [hopening, hitems]
    rfl

/-- **Reading the navigation.** What is read in the file of the navigation is what was written. -/
theorem findings_render (loc : Location) (packages : List Entity) :
    findings (render loc packages) =
      ((packages.filter Location.isLocal).map (packageGroup loc)).flatMap packageFindings := by
  have hpackage (g : PackageGroup) : Finds [{}] (packageTokens g) (packageFindings g) :=
    (finds_flatMap finds_libraryTokens).append (finds_topicTokens g.topics)
  rw [findings, tokens_render]
  have hgroups := finds_flatMap
    (l := (packages.filter Location.isLocal).map (packageGroup loc)) hpackage [.closing]
  have hopening (ts : List Token) : findingsFrom [] ([.opening, .closing,
      .field "from" "vitepress", .opening, .field [] "/api/"] ++ ts) =
      findingsFrom [{}] ts := by
    rfl
  rw [fileTokens, List.append_assoc, hopening, hgroups]
  exact List.append_nil _

end ApiSite.Navigation
