import LaunchLine.Proofs.SameConfig
import LaunchLine.Proofs.Trimming

/-!
# Proofs/Directories — the directories of a plan agree with its slots

A scan keeps the output directory in its slot and beside the slots.  The launcher is told what is in
the slot, and the directory for artifacts is derived from the other one.  The two are in step
(`Scan.outputDir?_eq_value?`), so the directory for artifacts lies right below the one that the
launcher is told of, if some word asked for it and that directory has a name; and the test is told
of it first.
-/

namespace LaunchLine

/-! ## The text of a slot is told -/

namespace Slots

/-- **A slot holds the text that the launcher is told.** -/
theorem render_some_mem_render_iff {slots : Slots} {slot : Slot} {value : String} :
    slot.render (some value) ∈ slots.render ↔ slots.value? slot = some value := by
  rw [render_mem_render_iff, value?_eq_some_iff]

/-- A slot that takes a value is told with one or not at all. -/
theorem render_notMem_render_iff {settings : List Setting} (h : ∀ st ∈ settings, st.IsComplete)
    {slot : Slot} (htakes : slot.takesValue = true) :
    (∀ value?, slot.render value? ∉ (ofSettings settings).render) ↔
      (ofSettings settings).value? slot = none := by
  constructor
  · intro hnone
    refine Option.eq_none_iff_forall_ne_some.2 fun value hvalue => ?_
    exact hnone _ (render_some_mem_render_iff.2 hvalue)
  · intro hnone value? hmem
    have hentry := render_mem_render_iff.1 hmem
    obtain ⟨value, rfl⟩ : ∃ value, value? = some value :=
      Option.isSome_iff_exists.1 ((isSome_of_mem_entries h hentry).trans htakes)
    exact Option.some_ne_none value ((value?_eq_some_iff.2 hentry).symm.trans hnone)

end Slots

/-! ## The segment that asks for artifacts -/

theorem Flag.effect_eq_keepArtifacts_iff {flag : Flag} :
    flag.effect = .keepArtifacts ↔ flag = .storeTestArtifacts := by
  cases flag <;> decide

theorem Flag.setting_eq_keepArtifacts_iff {flag : Flag} {value? : Option String} :
    flag.setting value? = .keepArtifacts ↔ flag = .storeTestArtifacts := by
  rw [← effect_eq_keepArtifacts_iff, setting]
  cases flag.effect <;> simp

/-- **Artifacts are asked for by one word**, which is a segment by itself. -/
theorem Segment.keepArtifacts_mem_settings_iff {s : Segment} :
    Setting.keepArtifacts ∈ s.settings ↔ s.words = [Flag.storeTestArtifacts.long] := by
  have hspelled : s.words = [Flag.storeTestArtifacts.long] →
      s.spelled? = some (.storeTestArtifacts, none) := by
    intro h
    rw [← recognize?_head, (List.cons.inj h).1]
    exact recognize?_of_isNamed Flag.storeTestArtifacts.isNamed_long
  cases s with
  | loose =>
    refine iff_of_false (fun h => ?_) (fun h => ?_)
    · cases h
    · cases hspelled h
  | switch flag name named =>
    rw [settings, List.mem_singleton, eq_comm, Flag.setting_eq_keepArtifacts_iff]
    refine ⟨?_, fun h => (Prod.mk.inj (Option.some.inj (hspelled h))).1⟩
    rintro rfl
    have hname : Flag.storeTestArtifacts.long = name := by
      simpa [Flag.short?] using Flag.isNamed_iff.1 named
    rw [hname]
    rfl
  | inline flag value takes =>
    rw [settings, List.mem_singleton, eq_comm, Flag.setting_eq_keepArtifacts_iff]
    refine iff_of_false (fun hflag => ?_) (fun h => ?_)
    · subst hflag
      cases takes
    · cases hspelled h
  | split flag name value named takes =>
    rw [settings, List.mem_singleton, eq_comm, Flag.setting_eq_keepArtifacts_iff]
    refine iff_of_false (fun hflag => ?_) (fun h => ?_)
    · subst hflag
      cases takes
    · cases (List.cons.inj h).2

/-! ## The directory for artifacts -/

/-- **A directory right below another one**, which may be spelled with slashes at its end. -/
def IsArtifactsDirOf (kept outputDir : String) : Prop :=
  ∃ base slashes : String, outputDir = base ++ slashes ∧ (∀ c ∈ slashes.toList, c = '/') ∧
    base.toList.getLast? ≠ some '/' ∧ kept = base ++ "/" ++ artifactsSubdir

/-- A directory for artifacts is derived from any output directory with a name. -/
theorem artifactsDirIn?_eq_some_iff {outputDir kept : String} :
    artifactsDirIn? outputDir = some kept ↔ outputDir ≠ "" ∧ IsArtifactsDirOf kept outputDir := by
  rw [artifactsDirIn?]
  by_cases hempty : outputDir = ""
  · simp [hempty]
  rw [if_neg hempty]
  constructor
  · intro h
    obtain ⟨back, hback, hslashes, hlast⟩ := Text.reverse_dropWhile_reverse_eq_iff.1
      (rfl : (outputDir.toList.reverse.dropWhile (· == '/')).reverse = _)
    refine ⟨hempty, _, .ofList back, ?_, ?_, ?_, (Option.some.inj h).symm⟩
    · rw [← String.ofList_append, ← hback, String.ofList_toList]
    · simpa using hslashes
    · rw [String.toList_ofList]
      exact fun hslash => absurd (hlast '/' hslash) (by decide)
  · rintro ⟨-, base, slashes, rfl, hslashes, hlast, rfl⟩
    have hbase : ((base ++ slashes).toList.reverse.dropWhile (· == '/')).reverse = base.toList := by
      refine Text.reverse_dropWhile_reverse_eq_iff.2
        ⟨slashes.toList, String.toList_append, by simpa using hslashes, fun c hc => ?_⟩
      exact beq_eq_false_iff_ne.2 fun hslash => hlast (hslash ▸ hc)
    dsimp only
    rw [hbase, String.ofList_toList]

/-! ## Both directories of a plan -/

namespace LaunchPlan

/-- **When there is a directory for artifacts**, and which. -/
theorem artifactsDir?_ofReading_eq_some_iff {r : Reading} {kept : String} :
    (ofReading r).artifactsDir? = some kept ↔ Setting.keepArtifacts ∈ r.settings ∧
      ∃ dir, (ofReading r).outputDir? = some dir ∧ dir ≠ "" ∧ IsArtifactsDirOf kept dir := by
  rw [artifactsDir?_ofReading, Option.ite_none_right_eq_some, Option.bind_eq_some_iff]
  simp only [artifactsDirIn?_eq_some_iff]

/-- There is one exactly if it is asked for and the output directory has a name. -/
theorem isSome_artifactsDir?_ofReading_iff {r : Reading} :
    (ofReading r).artifactsDir?.isSome = true ↔ Setting.keepArtifacts ∈ r.settings ∧
      ∃ dir, (ofReading r).outputDir? = some dir ∧ dir ≠ "" := by
  rw [Option.isSome_iff_exists]
  constructor
  · rintro ⟨kept, hkept⟩
    obtain ⟨hkeep, dir, hdir, hne, -⟩ := artifactsDir?_ofReading_eq_some_iff.1 hkept
    exact ⟨hkeep, dir, hdir, hne⟩
  · rintro ⟨hkeep, dir, hdir, hne⟩
    obtain ⟨kept, hkept⟩ := Option.ne_none_iff_exists'.1 (mt artifactsDirIn?_eq_none_iff.1 hne)
    exact ⟨kept, artifactsDir?_ofReading_eq_some_iff.2
      ⟨hkeep, dir, hdir, artifactsDirIn?_eq_some_iff.1 hkept⟩⟩

end LaunchPlan

/-- **The directories agree with the options.**  The output directory of a plan is what the launcher
is told of it, and there is none if the launcher is told of none.  However presets and command line
are cut into segments, there is a directory for artifacts exactly if one of these asks for it and
the output directory has a name; it lies right below, and the test is told of it first. -/
theorem Config.plan_directories {cfg : Config} {arguments : List String} {p : LaunchPlan}
    (h : cfg.plan arguments = .ok p) :
    (∀ dir, p.outputDir? = some dir ↔ Slot.outputDir.render (some dir) ∈ p.slotArgs) ∧
    (p.outputDir? = none ↔ ∀ value?, Slot.outputDir.render value? ∉ p.slotArgs) ∧
    (∃ presets : List Segment, Segment.spread presets = cfg.words) ∧
    (∃ l : Layout, l.words = arguments) ∧
    (∀ (presets : List Segment) (l : Layout), Segment.spread presets = cfg.words →
      l.words = arguments →
        (p.artifactsDir?.isSome = true ↔
          (∃ s ∈ presets ++ l.segments, s.words = [Flag.storeTestArtifacts.long]) ∧
            ∃ dir, p.outputDir? = some dir ∧ dir ≠ "")) ∧
    ∀ kept, p.artifactsDir? = some kept →
      (∃ dir, p.outputDir? = some dir ∧ IsArtifactsDirOf kept dir) ∧
        p.testArgs.head? = some (artifactsFlag ++ "=" ++ kept) := by
  obtain ⟨presets, l, hpresets, -, hwords, rfl⟩ := exists_segments_of_planWith h
  have hcomplete : ∀ st ∈ (presets ++ l.segments).flatMap Segment.settings, st.IsComplete :=
    Segment.isComplete_of_mem_flatMap
  refine ⟨fun dir => Slots.render_some_mem_render_iff.symm,
    (Slots.render_notMem_render_iff hcomplete rfl).symm, ⟨presets, hpresets⟩, ⟨l, hwords⟩, ?_,
    fun kept hkept => ?_⟩
  · intro presets' l' hpresets' hwords'
    obtain rfl : l' = l := Layout.words_injective (hwords'.trans hwords.symm)
    obtain rfl : presets' = presets := Segment.spread_injective (hpresets'.trans hpresets.symm)
    have hkeep : Setting.keepArtifacts ∈ (presets' ++ l'.segments).flatMap Segment.settings ↔
        ∃ s ∈ presets' ++ l'.segments, s.words = [Flag.storeTestArtifacts.long] := by
      rw [List.mem_flatMap]
      exact exists_congr fun s => and_congr_right fun _ => Segment.keepArtifacts_mem_settings_iff
    rw [LaunchPlan.isSome_artifactsDir?_ofReading_iff, hkeep]
  · obtain ⟨-, dir, hdir, -, hbelow⟩ := LaunchPlan.artifactsDir?_ofReading_eq_some_iff.1 hkept
    refine ⟨⟨dir, hdir, hbelow⟩, ?_⟩
    rw [LaunchPlan.testArgs, hkept]
    rfl

/-- Artifacts are asked for by the config; the same word as the value of a flag asks for nothing.
The last of three output directories counts, all of its slashes apart. -/
theorem Config.plan_directories_slashes :
    let cfg : Config := { Config.empty with
      outputDir? := some "first", storeTestArtifacts? := some true }
    let p : LaunchPlan :=
      ⟨["--shard_index=0", "--shard_count=1", "--output_dir=//", "prog", "--",
          "--test_artifacts_dir=/test_artifacts"],
        ["--output_dir=//"], some "prog", [], some "//", some "/test_artifacts"⟩
    cfg.plan ["-d", "--store-test-artifacts", "prog", "--output_dir=//"] = .ok p ∧
    Slot.outputDir.render (some "//") ∈ p.slotArgs ∧
    (∃ s ∈ ([.inline .outputDir "first" rfl,
        .switch .storeTestArtifacts "--store-test-artifacts" rfl rfl,
        .split .outputDir "-d" "--store-test-artifacts" rfl rfl (by decide),
        .loose "prog" (recognize?_eq_none_iff.1 (by decide)) (by decide),
        .inline .outputDir "//" rfl] : List Segment), s.words = ["--store-test-artifacts"]) ∧
    IsArtifactsDirOf "/test_artifacts" "//" ∧
    p.testArgs.head? = some "--test_artifacts_dir=/test_artifacts" := by
  intro cfg p
  have hplan : cfg.plan ["-d", "--store-test-artifacts", "prog", "--output_dir=//"] = .ok p := by
    decide
  obtain ⟨hout, -, -, -, hasked, hkept⟩ := plan_directories hplan
  have hsegments := hasked [.inline .outputDir "first" rfl,
      .switch .storeTestArtifacts "--store-test-artifacts" rfl rfl]
    ⟨[.split .outputDir "-d" "--store-test-artifacts" rfl rfl (by decide),
      .loose "prog" (recognize?_eq_none_iff.1 (by decide)) (by decide),
      .inline .outputDir "//" rfl], none⟩ (by decide) (by decide)
  obtain ⟨⟨dir, hdir, hbelow⟩, hhead⟩ := hkept _ rfl
  obtain rfl := Option.some.inj hdir
  exact ⟨hplan, (hout "//").1 rfl, (hsegments.1 rfl).1, hbelow, hhead⟩

end LaunchLine
