import LaunchLine.Proofs.Directories
import LaunchLine.Proofs.FieldWords

/-!
# Proofs/Overridable — which fields of a config a command line can override

A slot that takes a value can be given any other value in front of a command line that leaves the
slot alone.  A switch has no value to overwrite: **nothing takes a setting back**, so what a config
switched on stays on with every command line.
-/

namespace LaunchLine

/-! ## Nothing takes a setting back -/

namespace Slots

/-- A switch is told exactly if something switched it on. -/
theorem render_none_mem_render_iff {settings : List Setting} (h : ∀ st ∈ settings, st.IsComplete)
    {slot : Slot} (hswitch : slot.takesValue = false) :
    slot.render none ∈ (ofSettings settings).render ↔ .fill slot none ∈ settings := by
  have hdigest := Entries.isDigest_putAll (settings.filterMap Setting.filling?)
  rw [← entries_ofSettings] at hdigest
  rw [render_mem_render_iff, ← Setting.mem_filterMap_filling?]
  constructor
  · intro hentry
    obtain ⟨before, after, hfillings, -⟩ := hdigest.last slot none hentry
    rw [hfillings]
    exact List.mem_append_right _ List.mem_cons_self
  · intro hfilled
    obtain ⟨⟨slot', value?⟩, hentry, rfl⟩ :=
      List.mem_map.1 ((hdigest.mem_keys slot).2 (List.mem_map_of_mem hfilled))
    obtain rfl : value? = none := by
      simpa [hswitch] using isSome_of_mem_entries h hentry
    exact hentry

end Slots

namespace Config

variable {cfg : Config} {arguments : List String} {p : LaunchPlan}

/-- **Disabled tests stay switched on.** -/
theorem runDisabledTests_mem_slotArgs (hon : cfg.runDisabledTests? = some true)
    (h : cfg.plan arguments = .ok p) : Slot.runDisabledTests.render none ∈ p.slotArgs := by
  obtain ⟨r, hcomplete, hfields, rfl⟩ := exists_settings_of_plan h
  exact (Slots.render_none_mem_render_iff hcomplete rfl).2
    (hfields (runDisabledTests_mem_fieldSettings hon))

/-- **Artifacts stay kept**, below the output directory if that has a name. -/
theorem exists_artifactsDir (hon : cfg.storeTestArtifacts? = some true)
    (h : cfg.plan arguments = .ok p) {dir : String} (hdir : p.outputDir? = some dir)
    (hne : dir ≠ "") : ∃ kept, p.artifactsDir? = some kept ∧ IsArtifactsDirOf kept dir := by
  obtain ⟨r, -, hfields, rfl⟩ := exists_settings_of_plan h
  have hkeep := hfields (keepArtifacts_mem_fieldSettings hon)
  obtain ⟨kept, hkept⟩ := Option.isSome_iff_exists.1
    (LaunchPlan.isSome_artifactsDir?_ofReading_iff.2 ⟨hkeep, dir, hdir, hne⟩)
  obtain ⟨-, dir', hdir', -, hbelow⟩ := LaunchPlan.artifactsDir?_ofReading_eq_some_iff.1 hkept
  obtain rfl : dir' = dir := Option.some.inj (hdir'.symm.trans hdir)
  exact ⟨kept, hkept, hbelow⟩

/-! ## A value can be overwritten -/

/-- **A value is told** if it stands in front of a command line that leaves its slot alone. -/
theorem exists_plan_of_value (haccepted : cfg.IsAccepted) {slot : Slot}
    (htakes : slot.takesValue = true) (value : String) (hplan : LaunchLine.plan arguments = .ok p)
    (halone : ∀ value?, slot.render value? ∉ p.slotArgs) :
    ∃ r : LaunchPlan, cfg.plan ([slot.render (some value)] ++ arguments) = .ok r ∧
      slot.render (some value) ∈ r.slotArgs := by
  obtain ⟨settings, hread⟩ := checkPresets_eq_ok_iff.1 haccepted
  obtain ⟨line, hline, rfl⟩ := exists_reading_of_plan hplan
  have hcomplete : ∀ st ∈ line.settings, st.IsComplete := by
    obtain ⟨l, -, rfl⟩ := exists_layout_of_readArguments hline
    exact Segment.isComplete_of_mem_flatMap
  have hfront : readPresets [slot.render (some value)] = .ok [.fill slot (some value)] :=
    readPresets_render htakes.symm
  refine ⟨.ofReading ⟨settings ++ ([.fill slot (some value)] ++ line.settings), line.loose⟩, ?_, ?_⟩
  · rw [Config.plan, planWith_of_readPresets hread, readArguments_append_of_readPresets hfront,
      hline]
    rfl
  · refine Slots.render_some_mem_render_iff.2 ?_
    have hlast : (Slots.ofSettings (settings ++ [.fill slot (some value)])).value? slot
        = some value := by
      rw [Slots.ofSettings, List.foldl_concat]
      exact (Slots.value?_put _ slot slot _).trans (if_pos rfl)
    rw [Scan.slots_ofReading, ← List.append_assoc,
      Slots.value?_ofSettings_append hcomplete htakes, hlast,
      (Slots.render_notMem_render_iff hcomplete htakes).1 halone]
    rfl

end Config

/-- **What a command line can override.**  For every slot that takes a value and every value there
are options which can be accepted as presets and which, in front of any command line that leaves the
slot alone, give the slot this value under an accepted config.  But what a config switched on no
command line switches off: disabled tests are run, and artifacts are kept wherever the output
directory has a name. -/
theorem Config.plan_overridden {cfg : Config} (h : cfg.IsAccepted) :
    (∀ (slot : Slot) (value : String), slot.takesValue = true →
      ∃ options, checkPresets options = .ok () ∧
        ∀ arguments p, LaunchLine.plan arguments = .ok p →
          (∀ value?, slot.render value? ∉ p.slotArgs) →
            ∃ r : LaunchPlan, cfg.plan (options ++ arguments) = .ok r ∧
              slot.render (some value) ∈ r.slotArgs) ∧
    (cfg.runDisabledTests? = some true → ∀ arguments p, cfg.plan arguments = .ok p →
      Slot.runDisabledTests.render none ∈ p.slotArgs) ∧
    (cfg.storeTestArtifacts? = some true → ∀ arguments p, cfg.plan arguments = .ok p →
      ∀ dir, p.outputDir? = some dir → dir ≠ "" →
        ∃ kept, p.artifactsDir? = some kept ∧ IsArtifactsDirOf kept dir) := by
  refine ⟨fun slot value htakes => ⟨[slot.render (some value)], ?_, ?_⟩, ?_, ?_⟩
  · exact checkPresets_eq_ok_iff.2 ⟨_, readPresets_render htakes.symm⟩
  · exact fun arguments p hplan halone => exists_plan_of_value h htakes value hplan halone
  · exact fun hon arguments p hplan => runDisabledTests_mem_slotArgs hon hplan
  · exact fun hon arguments p hplan dir hdir hne => exists_artifactsDir hon hplan hdir hne

/-- A config with a value and both switches: the value gives way, and the switches stay on, whatever
looks like switching them off. -/
theorem Config.plan_overridden_switches :
    let cfg : Config := { Config.empty with
      outputDir? := some "out", storeTestArtifacts? := some true, workers? := some 2
      runDisabledTests? := some true }
    let p : LaunchPlan :=
      ⟨["--shard_index=0", "--shard_count=1", "--output_dir=out", "--workers=2",
          "--gtest_also_run_disabled_tests", "prog", "--",
          "--test_artifacts_dir=out/test_artifacts", "--store-test-artifacts=false",
          "--gtest_also_run_disabled_tests=false"],
        ["--output_dir=out", "--workers=2", "--gtest_also_run_disabled_tests"], some "prog",
        ["--store-test-artifacts=false", "--gtest_also_run_disabled_tests=false"], some "out",
        some "out/test_artifacts"⟩
    cfg.IsAccepted ∧
    (∃ options, checkPresets options = .ok () ∧ ∃ r : LaunchPlan,
      cfg.plan (options ++ ["prog", "-r", "3"]) = .ok r ∧ "--workers=--" ∈ r.slotArgs) ∧
    cfg.plan ["--store-test-artifacts=false", "prog", "--gtest_also_run_disabled_tests=false"]
      = .ok p ∧
    "--gtest_also_run_disabled_tests" ∈ p.slotArgs ∧
    ∃ kept, p.artifactsDir? = some kept ∧ IsArtifactsDirOf kept "out" := by
  intro cfg p
  have haccepted : cfg.IsAccepted := (by decide : checkPresets cfg.words = .ok ())
  have hplan : cfg.plan ["--store-test-artifacts=false", "prog",
      "--gtest_also_run_disabled_tests=false"] = .ok p := by
    decide
  have halone : ∀ value?, Slot.workers.render value? ∉ ["--repeat=3"] := by
    intro value? hmem
    have hslot : (Slot.workers, value?) = (.repeatCount, some "3") :=
      Slot.render_injective (List.mem_singleton.1 hmem)
    cases hslot
  obtain ⟨hvalue, hrun, hkeep⟩ := plan_overridden haccepted
  refine ⟨haccepted, ?_, hplan, hrun rfl _ _ hplan, hkeep rfl _ _ hplan "out" rfl (by decide)⟩
  obtain ⟨options, haccept, hover⟩ := hvalue .workers "--" rfl
  exact ⟨options, haccept, hover ["prog", "-r", "3"] _ rfl halone⟩

/-- **Switches cannot be overridden**: no options switch disabled tests off, and none give up the
artifacts and leave the output directory as it is. -/
theorem Config.not_overridable_switches :
    let cfg : Config := { Config.empty with
      outputDir? := some "out", storeTestArtifacts? := some true, runDisabledTests? := some true }
    cfg.IsAccepted ∧
    (¬ ∃ options, checkPresets options = .ok () ∧
      ∀ arguments p, LaunchLine.plan arguments = .ok p →
        (∀ value?, Slot.runDisabledTests.render value? ∉ p.slotArgs) →
          ∃ r : LaunchPlan, cfg.plan (options ++ arguments) = .ok r ∧
            Slot.runDisabledTests.render none ∉ r.slotArgs) ∧
    ¬ ∃ options, checkPresets options = .ok () ∧
      ∀ arguments p, LaunchLine.plan arguments = .ok p →
        (∀ l : Layout, l.words = arguments →
          ∀ s ∈ l.segments, s.words ≠ [Flag.storeTestArtifacts.long]) →
          ∃ q r : LaunchPlan, cfg.plan arguments = .ok q ∧ cfg.plan (options ++ arguments) = .ok r ∧
            r.artifactsDir? = none ∧ r.outputDir? = q.outputDir? := by
  intro cfg
  refine ⟨(by decide : checkPresets cfg.words = .ok ()), ?_, ?_⟩
  · rintro ⟨options, -, hoff⟩
    obtain ⟨r, hr, hnot⟩ := hoff [] _ rfl fun value? hmem => (nomatch hmem)
    exact hnot (runDisabledTests_mem_slotArgs rfl hr)
  · rintro ⟨options, -, hoff⟩
    have hnone : ∀ l : Layout, l.words = [] →
        ∀ s ∈ l.segments, s.words ≠ [Flag.storeTestArtifacts.long] := by
      intro l hl s hs
      obtain rfl : l = ⟨[], none⟩ := Layout.words_injective hl
      cases hs
    obtain ⟨q, r, hq, hr, hdropped, hdir⟩ := hoff [] _ rfl hnone
    have hout : q.outputDir? = some "out" := by
      obtain rfl := Except.ok.inj hq
      decide
    obtain ⟨kept, hkept, -⟩ := exists_artifactsDir rfl hr (hdir.trans hout) (by decide)
    cases hdropped.symm.trans hkept

end LaunchLine
