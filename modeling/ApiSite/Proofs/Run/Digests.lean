import ApiSite.Run.Generation
import ApiSite.Proofs.Data.Json.Canonical

/-!
# The digest that a report gives for the settings

A report always comes about where the settings have a canonical text, and gives the digest of this
text (`runOn_report`). So two runs report one digest exactly if their settings are the same but for
the order of keys, unless two texts that differ have one digest (`report_digest_eq_iff`).
-/

set_option autoImplicit false

namespace ApiSite.Run

open Json Settings

variable {settings settings' : Settings}

/-- The report for settings with a canonical text, whatever the run has done before. -/
theorem runOn_report (h : IsPlain settings.toValue) (model : Model) (location : Location)
    (s : State) :
    (report settings model location).runOn s =
      (.ok ⟨Sha256.ofAscii (canonicalText settings.toValue), location.targets model,
        some s.output.stats⟩, s) := by
  rw [report, Settings.digest?, h.canonical?_eq]
  rfl

/-- **Two runs report one digest exactly if their settings agree.** Settings of nothing but null,
truth values, whole numbers, texts, lists and mappings with texts as keys have canonical texts, and
these are the same exactly if the settings are the same but for the order of keys. The reports that
are made of them then have one digest too, and otherwise only if the texts are a collision. -/
theorem report_digest_eq_iff (h : IsPlain settings.toValue) (h' : IsPlain settings'.toValue) :
    ∃ t t', canonical? settings.toValue = some t ∧ canonical? settings'.toValue = some t' ∧
      (t = t' ↔ IsReordered settings.toValue settings'.toValue) ∧
      ∀ model model' location location' s s', ∃ r r',
        (report settings model location).runOn s = (.ok r, s) ∧
        (report settings' model' location').runOn s' = (.ok r', s') ∧
        (r.digest = r'.digest ↔ IsReordered settings.toValue settings'.toValue ∨
          t ≠ t' ∧ Sha256.ofAscii t = Sha256.ofAscii t') := by
  refine ⟨_, _, h.canonical?_eq, h'.canonical?_eq, canonicalText_eq_iff h h',
    fun model model' location location' s s' ↦
      ⟨_, _, runOn_report h model location s, runOn_report h' model' location' s', ?_⟩⟩
  rw [← canonicalText_eq_iff h h']
  constructor
  · intro hdigest
    exact (em _).imp_right fun hne ↦ ⟨hne, hdigest⟩
  · rintro (heq | ⟨-, hdigest⟩)
    · exact congrArg Sha256.ofAscii heq
    · exact hdigest

theorem report_digest_eq_of_swapped :
    let one : Settings := ⟨[(.text "pages", section_ [("toc", .bool true), ("depth", .int 2)])]⟩
    let other : Settings := ⟨[(.text "pages", section_ [("depth", .int 2), ("toc", .bool true)])]⟩
    IsPlain one.toValue ∧ IsPlain other.toValue ∧
      ∀ model model' location location' s s', ∃ r r',
        (report one model location).runOn s = (.ok r, s) ∧
        (report other model' location').runOn s' = (.ok r', s') ∧ r.digest = r'.digest := by
  intro one other
  have hpages : IsPlain (section_ [("toc", .bool true), ("depth", .int 2)]) :=
    .mapping (by decide) (by simp [IsPlain.bool, IsPlain.int])
  have hpages' : IsPlain (section_ [("depth", .int 2), ("toc", .bool true)]) :=
    .mapping (by decide) (by simp [IsPlain.bool, IsPlain.int])
  have hone : IsPlain one.toValue :=
    .mapping (m := [("pages", _)]) (by decide) (List.forall_mem_singleton.mpr hpages)
  have hother : IsPlain other.toValue :=
    .mapping (m := [("pages", _)]) (by decide) (List.forall_mem_singleton.mpr hpages')
  have hswapped : IsReordered (section_ [("toc", .bool true), ("depth", .int 2)])
      (section_ [("depth", .int 2), ("toc", .bool true)]) := by
    refine .mapping (by simp [or_comm]) fun k v v' hv hv' ↦ ?_
    simp only [List.mem_cons, Prod.mk.injEq, List.not_mem_nil, or_false] at hv hv'
    obtain ⟨rfl, rfl⟩ | ⟨rfl, rfl⟩ := hv
    · obtain rfl : v' = .bool true := by simpa using hv'
      exact .bool true
    · obtain rfl : v' = .int 2 := by simpa using hv'
      exact .int 2
  have hsame : IsReordered one.toValue other.toValue := by
    change IsReordered (section_ [("pages", _)]) (section_ [("pages", _)])
    refine .mapping (fun _ ↦ .rfl) fun k v v' hv hv' ↦ ?_
    obtain ⟨-, rfl⟩ := Prod.mk.inj (List.mem_singleton.mp hv)
    obtain ⟨-, rfl⟩ := Prod.mk.inj (List.mem_singleton.mp hv')
    exact hswapped
  refine ⟨hone, hother, fun model model' location location' s s' ↦ ?_⟩
  obtain ⟨t, t', -, -, -, hreports⟩ := report_digest_eq_iff hone hother
  obtain ⟨r, r', hr, hr', hdigest⟩ := hreports model model' location location' s s'
  exact ⟨r, r', hr, hr', hdigest.mpr (.inl hsame)⟩

end ApiSite.Run
