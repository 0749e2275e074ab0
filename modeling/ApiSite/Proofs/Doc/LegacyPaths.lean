import ApiSite.Proofs.Doc.PathSteps

/-!
# Paths of the older layout

In the older layout a page had a path from page to page with the ending `.html`; in the present one
it has an address below `/api/`, and a page with the name of its directory is the directory itself.
Converting a path gives the address of its page (`convertPath_source_iff`), unless the name of the
page merely ends that of its directory: such a page is taken for the directory. Otherwise only line
feeds in names lead to something else.
-/

set_option autoImplicit false

namespace ApiSite.Doc

open Text (join splitOn isAtEnd substituteFirst)

/-- The path of a page of the older layout, seen from another page. -/
structure LegacyPath where
  ups : Nat
  init : List Text
  last : Text
  isSegment : ∀ t ∈ init ++ [last], IsSegment t
  not_library : ¬"-library".toList <:+ last

namespace LegacyPath

def segments (p : LegacyPath) : List Text := p.init ++ [p.last]

/-- The path as a link gives it. -/
def source (p : LegacyPath) : Text :=
  Text.times p.ups "../" ++ (join "/" p.segments ++ ".html")

/-- The address of the page in the present layout: a page with the name of its directory is the
directory itself. -/
def address (p : LegacyPath) : Text :=
  "/api/" ++ if p.init.getLast? = some p.last then join "/" p.init ++ "/" else join "/" p.segments

end LegacyPath

/-- Where converting a path goes wrong. -/
inductive IsMisread (init : List Text) (last : Text) : Prop
  /-- A line feed stands behind the ending of the page of a library. -/
  | library (start : Text) (hlast : last = start ++ "-library\n")
  /-- The name of the page, without a line feed at its end, ends the name of its directory, which is
  another name. -/
  | page (kept : List Text) (x part rest : Text) (hne : part ≠ []) (hrest : isAtEnd rest = true)
    (hinit : init = kept ++ [x ++ part]) (hlast : last = part ++ rest) (hother : x ++ part ≠ last)
  /-- The name of the page is a line feed, and the name of its directory ends that of the directory
  around. -/
  | line (kept : List Text) (x part : Text) (hne : part ≠ [])
    (hinit : init = kept ++ [x ++ part, part]) (hlast : last = ['\n'])

namespace LegacyPath

variable (p : LegacyPath) {before part rest owner x : Text} {kept : List Text}

theorem slash_notMem {t : Text} (ht : t ∈ p.init ++ [p.last]) : '/' ∉ t :=
  (p.isSegment t ht).slash_notMem

/-- The way to the root is dropped, and no more: the first segment is no `..`. -/
theorem dropUps_source : dropUps p.source = join "/" p.segments ++ ".html" := by
  rw [source, dropUps_times]
  refine dropUps_eq_self fun rest heq ↦ ?_
  have hsplit : splitOn '/' (join "/" (p.init ++ [p.last ++ ".html"])) =
      p.init ++ [p.last ++ ".html"] := by
    refine Text.splitOn_join (by simp) fun t ht ↦ ?_
    rcases List.mem_append.mp ht with ht | ht
    · exact p.slash_notMem (List.mem_append_left _ ht)
    · rw [List.mem_singleton.mp ht, List.mem_append, not_or]
      exact ⟨p.slash_notMem (t := p.last) (by simp), by decide⟩
  rw [segments, ← Text.join_concat_append] at heq
  rw [heq, show '.' :: '.' :: '/' :: rest = ".." ++ '/' :: rest from rfl,
    Text.splitOn_append (by decide)] at hsplit
  cases hinit : p.init with
  | nil =>
    rw [hinit] at hsplit
    have hlength := congrArg List.length (List.cons.inj hsplit).1
    simp at hlength
  | cons first rest =>
    rw [hinit] at hsplit
    exact (p.isSegment first (by simp [hinit])).ne_dots (List.cons.inj hsplit).1.symm

theorem convertPath_source : convertPath p.source =
    rooted (substituteFirst mergeRepeated
      (substituteFirst (replaceEnding "-library" "/") (join "/" p.segments))) := by
  have hhtml : substituteFirst (replaceEnding ".html" [])
      (join "/" p.segments ++ (".html".toList ++ [])) = join "/" p.segments ++ ([] ++ []) :=
    substituteFirst_replaceEnding (by decide) (by decide) rfl
  simp only [List.append_nil] at hhtml
  rw [convertPath, rooted]
  simp only [dropUps_source, hhtml]

/-- Where there is no line feed behind the ending of the page of a library, only repeated parts
count. -/
theorem convertPath_source_of_not_library (hlibrary : ∀ start, p.last ≠ start ++ "-library\n") :
    convertPath p.source = rooted (substituteFirst mergeRepeated (join "/" p.segments)) := by
  rw [convertPath_source, substituteFirst_replaceEnding_eq_self fun before rest hrest heq ↦ ?_]
  have hslash : '/' ∉ "-library".toList ++ rest := by
    rcases Text.isAtEnd_iff.mp hrest with rfl | rfl <;> decide
  obtain ⟨start, hlast⟩ := exists_last_of_join_eq (fun t ht ↦ p.slash_notMem ht) hslash heq
  rcases Text.isAtEnd_iff.mp hrest with rfl | rfl
  · exact p.not_library ⟨start, by rw [hlast, List.append_nil]⟩
  · exact hlibrary start hlast

/-! ### Repeated parts in paths -/

theorem repeats_of_page (hinit : p.init = kept ++ [x ++ part]) (hlast : p.last = part ++ rest)
    (hne : part ≠ []) (hrest : isAtEnd rest = true) :
    Repeats (join "/" (kept ++ [x])) part [] rest (join "/" p.segments) := by
  have hslash : '/' ∉ part := fun hmem ↦
    p.slash_notMem (t := p.last) (by simp) (by simp [hlast, hmem])
  have hjoin : join "/" [p.last] = part ++ ([] ++ rest) := hlast
  rw [segments, hinit]
  exact repeats_join hne hslash (Or.inl rfl) hrest (by simp) hjoin kept x

theorem repeats_of_line (hinit : p.init = kept ++ [x ++ part, part]) (hlast : p.last = ['\n'])
    (hne : part ≠ []) : Repeats (join "/" (kept ++ [x])) part "/" ['\n'] (join "/" p.segments) := by
  have hslash : '/' ∉ part := p.slash_notMem (by simp [hinit])
  have hsegments : p.segments = kept ++ [x ++ part] ++ [part, p.last] := by
    rw [segments, hinit]
    simp
  rw [hsegments]
  exact repeats_join hne hslash (Or.inr rfl) rfl (by simp) (by simp [join, hlast]) kept x

/-- A page with the name of its directory repeats it. -/
theorem repeats_of_namesake (hinit : p.init = kept ++ [p.last]) :
    Repeats (join "/" (kept ++ [[]])) p.last [] [] (join "/" p.segments) := by
  have hne := (p.isSegment p.last (by simp)).ne_nil
  exact p.repeats_of_page (x := []) hinit (List.append_nil _).symm hne rfl

/-! ### What paths are read as -/

/-- Where nothing is repeated, a path is read as it is written. -/
theorem rooted_join_segments (hlibrary : ∀ start, p.last ≠ start ++ "-library\n")
    (hnone : ∀ before part mark rest, ¬Repeats before part mark rest (join "/" p.segments)) :
    rooted (join "/" p.segments) = p.address ∧ ¬IsMisread p.init p.last := by
  constructor
  · have hroot : rooted (join "/" (p.init ++ [p.last]) ++ []) = _ :=
      rooted_join p.isSegment (by simp) (Or.inl rfl)
    rw [List.append_nil] at hroot
    rw [address, if_neg, segments, hroot]
    intro hsame
    obtain ⟨kept, hinit⟩ := List.getLast?_eq_some_iff.mp hsame
    exact hnone _ _ _ _ (p.repeats_of_namesake hinit)
  · rintro (⟨start, hlast⟩ | ⟨kept, x, part, rest, hne, hrest, hinit, hlast, -⟩ |
      ⟨kept, x, part, hne, hinit, hlast⟩)
    · exact hlibrary start hlast
    · exact hnone _ _ _ _ (p.repeats_of_page hinit hlast hne hrest)
    · exact hnone _ _ _ _ (p.repeats_of_line hinit hlast hne)

/-- A page with the name of its directory is not misread if nothing is repeated before. -/
theorem not_isMisread_of_namesake (hlibrary : ∀ start, p.last ≠ start ++ "-library\n")
    (hinit : p.init = kept ++ [p.last])
    (hfirst : NoneBefore (join "/" (kept ++ [[]])).length (join "/" p.segments)) :
    ¬IsMisread p.init p.last := by
  rintro (⟨start, hlast⟩ | ⟨kept', x, part, rest, -, -, hinit', -, hother⟩ |
    ⟨kept', x, part, hne, hinit', hlast⟩)
  · exact hlibrary start hlast
  · obtain ⟨-, howner⟩ := List.append_inj' (hinit.symm.trans hinit') rfl
    exact hother (List.cons.inj howner).1.symm
  · have hstart := hfirst _ _ _ _ (p.repeats_of_line hinit' hlast hne)
    have hsame : kept ++ [p.last] = kept' ++ [x ++ part] ++ [part] := by
      rw [← hinit, hinit']
      simp
    obtain ⟨hkept, -⟩ := List.append_inj' hsame rfl
    rw [hkept, Text.join_concat (by simp), Text.join_concat_append] at hstart
    have hpart := List.length_pos_iff.mpr hne
    simp only [List.length_append] at hstart
    omega

/-- Where the name of a page ends the name of its directory, the page is read as the directory. -/
theorem rooted_eq_address_iff_of_page (hlibrary : ∀ start, p.last ≠ start ++ "-library\n")
    (hinit : p.init = kept ++ [x ++ part]) (hlast : p.last = part ++ rest) (hne : part ≠ [])
    (hrest : isAtEnd rest = true) (hbefore : join "/" p.init = before ++ part)
    (hfirst : NoneBefore before.length (join "/" p.segments)) :
    rooted (join "/" p.init ++ '/' :: rest) = p.address ↔ ¬IsMisread p.init p.last := by
  have hinitSegment : ∀ t ∈ p.init, IsSegment t := fun t ht ↦
    p.isSegment t (List.mem_append_left _ ht)
  have hinitNe : p.init ≠ [] := by simp [hinit]
  rw [rooted_join_slash hinitSegment hinitNe hrest]
  by_cases hother : x ++ part = p.last
  · -- the whole name is repeated from where it begins, so the first repeated part is the whole name
    rw [hother] at hinit
    have hstart := hfirst _ _ _ _ (p.repeats_of_namesake hinit)
    have hjoin : join "/" p.init = join "/" (kept ++ [[]]) ++ p.last := by
      rw [hinit, ← Text.join_concat_append, List.nil_append]
    have hlength := congrArg List.length hbefore
    rw [hjoin, hlast, List.length_append, List.length_append, List.length_append] at hlength
    obtain rfl : rest = [] := List.length_eq_zero_iff.mp (by omega)
    have haddress : p.address = "/api/" ++ (join "/" p.init ++ "/") := by
      rw [address, if_pos]
      rw [hinit, List.getLast?_concat]
    refine iff_of_true haddress.symm (p.not_isMisread_of_namesake hlibrary hinit ?_)
    have hlengths : (join "/" (kept ++ [[]])).length = before.length := by simpa using hlength
    rw [hlengths]
    exact hfirst
  · refine iff_of_false (fun heq ↦ ?_) fun h ↦
      h (.page kept x part rest hne hrest hinit hlast hother)
    rw [address, if_neg (by simpa [hinit] using hother), segments, List.append_cancel_left_eq,
      Text.join_concat hinitNe, List.append_cancel_left_eq] at heq
    have hrest := (List.cons.inj heq).2
    rw [hlast] at hrest
    exact hne (List.self_eq_append_left.mp hrest)

/-- A page whose name is a line feed is read without the name that its directory repeats. -/
theorem rooted_ne_address_of_line (hinit : p.init = kept ++ [owner, part]) (hlast : p.last = ['\n'])
    (hne : part ≠ []) : rooted (join "/" (kept ++ [owner]) ++ ['/', '\n']) ≠ p.address := by
  have howner : ∀ t ∈ kept ++ [owner], IsSegment t := fun t ht ↦ p.isSegment t (by
    rw [hinit]
    simp only [List.mem_append, List.mem_cons] at ht ⊢
    tauto)
  have hjoin : join "/" p.init = join "/" (kept ++ [owner]) ++ ("/" ++ part) := by
    rw [← Text.join_concat (by simp), hinit]
    simp
  rw [rooted_join_slash howner (by simp) rfl, address]
  intro heq
  have hlength := congrArg List.length (List.append_cancel_left heq)
  split at hlength
  · rw [hjoin] at hlength
    simp [hne] at hlength
  · have hinitNe : p.init ≠ [] := by simp [hinit]
    rw [segments, Text.join_concat hinitNe, hjoin, hlast] at hlength
    simp at hlength

/-- Where no line feed stands behind the ending of the page of a library, only repeated parts are
misread. -/
theorem convertPath_source_iff_of_not_library
    (hlibrary : ∀ start, p.last ≠ start ++ "-library\n") :
    convertPath p.source = p.address ↔ ¬IsMisread p.init p.last := by
  rw [convertPath_source_of_not_library p hlibrary]
  rcases merge_cases (join "/" p.segments) with
    ⟨heq, hnone⟩ | ⟨before, part, mark, rest, hrepeats, heq, hfirst⟩
  · obtain ⟨haddress, hread⟩ := p.rooted_join_segments hlibrary hnone
    rw [heq]
    exact iff_of_true haddress hread
  · obtain ⟨kept, owner, ⟨x, rfl⟩, hjoin, hsegments | ⟨hsegments, rfl⟩⟩ :=
      hrepeats.exists_split p.isSegment (by simp [segments])
    · obtain ⟨hinit, hlast⟩ := List.append_inj' hsegments rfl
      rw [← hinit] at hjoin
      rw [heq, ← hjoin]
      exact p.rooted_eq_address_iff_of_page hlibrary hinit (List.cons.inj hlast).1 hrepeats.ne_nil
        hrepeats.isAtEnd_rest hjoin hfirst
    · obtain ⟨hinit, hlast⟩ := List.append_inj' hsegments rfl
      rw [heq, ← hjoin]
      exact iff_of_false (p.rooted_ne_address_of_line hinit (List.cons.inj hlast).1 hrepeats.ne_nil)
        fun h ↦ h (.line kept x part hrepeats.ne_nil hinit (List.cons.inj hlast).1)

/-! ### Pages of libraries with a line feed -/

/-- An address ends with no line feed that is a segment of its own, if the page is that of a
library. -/
theorem rooted_break_ne_address {start : Text} (hlast : p.last = start ++ "-library\n") (x : Text) :
    rooted (x ++ ['/', '\n']) ≠ p.address := by
  obtain ⟨y, hy⟩ := exists_rooted_break x
  rw [hy, address]
  intro hsame
  have hreverse := congrArg List.reverse hsame
  split at hreverse
  · simp at hreverse
  · rw [segments, hlast, Text.join_concat_append] at hreverse
    simp at hreverse

/-- An address is no directory with a name that ends with a line feed in place of the ending of the
page of a library. -/
theorem rooted_slash_ne_address {start : Text} (hlast : p.last = start ++ "-library\n")
    (hx : join "/" (p.init ++ [start]) = x ++ ['\n']) :
    rooted (join "/" (p.init ++ [start]) ++ "/") ≠ p.address := by
  have hstart : '/' ∉ start := fun hmem ↦
    p.slash_notMem (t := p.last) (by simp) (by simp [hlast, hmem])
  have hslash : ∀ t ∈ p.init ++ [start], '/' ∉ t := fun t ht ↦ by
    rcases List.mem_append.mp ht with ht | ht
    · exact p.slash_notMem (List.mem_append_left _ ht)
    · exact List.mem_singleton.mp ht ▸ hstart
  obtain ⟨y, rfl⟩ := exists_last_of_join_eq hslash (by decide) hx
  have hbreak {t : Text} (ht : t.getLast? ≠ some '\n') : y ++ ['\n'] ≠ t := fun heq ↦
    ht (heq ▸ List.getLast?_concat)
  have hsegments : ∀ t ∈ p.init ++ [y ++ ['\n']], IsSegment t := fun t ht ↦ by
    rcases List.mem_append.mp ht with ht | ht
    · exact p.isSegment t (List.mem_append_left _ ht)
    · rw [List.mem_singleton.mp ht]
      exact ⟨by simp, hstart, hbreak (by decide), hbreak (by decide)⟩
  rw [rooted_join hsegments (by simp) (Or.inr rfl), address]
  intro hsame
  have hread := List.append_cancel_left hsame
  split at hread
  · next hdirectory =>
    have hinit : p.init ≠ [] := by
      rintro hnil
      rw [hnil] at hdirectory
      cases hdirectory
    rw [Text.join_concat hinit] at hread
    simp at hread
  · rw [segments, hlast, Text.join_concat_append "/" p.init (y ++ ['\n']) "-library\n"] at hread
    have hreverse := congrArg List.reverse hread
    simp at hreverse

/-- The page of a library with a line feed behind the ending of its name is read as something
else. -/
theorem convertPath_source_ne_address_of_library {start : Text}
    (hlast : p.last = start ++ "-library\n") : convertPath p.source ≠ p.address := by
  have hreplaced : substituteFirst (replaceEnding "-library" "/") (join "/" p.segments) =
      join "/" (p.init ++ [start]) ++ ['/', '\n'] := by
    have h : substituteFirst (replaceEnding "-library" "/")
        (join "/" (p.init ++ [start]) ++ ("-library".toList ++ ['\n'])) = _ :=
      substituteFirst_replaceEnding (by decide) (by decide) rfl
    rw [segments, hlast, Text.join_concat_append]
    exact h
  rw [convertPath_source, hreplaced]
  rcases merge_break (join "/" (p.init ++ [start])) with ⟨x, heq⟩ | ⟨heq, x, hx⟩
  · rw [heq]
    exact p.rooted_break_ne_address hlast x
  · rw [heq]
    exact p.rooted_slash_ne_address hlast hx

/-! ### All paths -/

/-- **Paths of the older layout.** Converting the path of a page gives its address below `/api/`,
the directory for a page with the name of its directory, exactly where the path is not misread. In
particular a page is taken for its directory wherever its name merely ends the name of the
directory. -/
theorem convertPath_source_iff : convertPath p.source = p.address ↔ ¬IsMisread p.init p.last := by
  by_cases hlibrary : ∃ start, p.last = start ++ "-library\n"
  · obtain ⟨start, hlast⟩ := hlibrary
    exact iff_of_false (p.convertPath_source_ne_address_of_library hlast)
      fun h ↦ h (.library start hlast)
  · exact p.convertPath_source_iff_of_not_library fun start hlast ↦ hlibrary ⟨start, hlast⟩

example : convertPath "../dart-core/List.html" = "/api/dart-core/List" := by decide

/-- The page of `core` is taken for the directory of `dart-core`. -/
example : convertPath "dart-core/core.html" = "/api/dart-core/" := by decide

end LegacyPath

end ApiSite.Doc
