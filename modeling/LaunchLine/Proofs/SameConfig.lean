import LaunchLine.Proofs.Override

/-!
# Proofs/SameConfig — wrapping again under the same config

What the launcher is told, without the shard, is given to the wrapper once more, and the config with
it.  The config lays its slots down again, and the argument list then overrides all of them with the
values that they already had: **overriding twice is overriding once**, `Entries.override_override`.
So only the directory for artifacts can tell the two plans apart, since the config asks for it anew.
-/

namespace LaunchLine

/-! ## Overriding twice -/

namespace Entries

variable {κ α : Type} [DecidableEq κ]

/-- **Overriding twice is overriding once.** -/
theorem override_override {m : List (κ × α)} (hnodup : (m.map Prod.fst).Nodup)
    (d : List (κ × α)) : override m (override m d) = override m d := by
  have hvalues : ∀ e ∈ m, (e.1, ((override m d).lookup e.1).getD e.2)
      = (e.1, (d.lookup e.1).getD e.2) := by
    intro e he
    rw [lookup_override, lookup_of_mem hnodup he]
    cases d.lookup e.1 <;> rfl
  have hmapped : (m.map fun e => (e.1, (d.lookup e.1).getD e.2)).filter
      (fun e => e.1 ∉ m.map Prod.fst) = [] := by
    refine List.filter_eq_nil_iff.2 fun e he => ?_
    obtain ⟨e', he', rfl⟩ := List.mem_map.1 he
    simpa using ⟨e'.2, he'⟩
  have hothers : (override m d).filter (fun e => e.1 ∉ m.map Prod.fst)
      = d.filter fun e => e.1 ∉ m.map Prod.fst := by
    rw [override, List.filter_append, hmapped, List.filter_filter, List.nil_append]
    simp only [Bool.and_self]
  rw [override, List.map_congr_left hvalues, hothers, override]

end Entries

/-- **Laying the first settings down again** in front of the slots changes nothing. -/
theorem Slots.ofSettings_append_entries (settings more : List Setting) :
    ofSettings (settings ++ (ofSettings (settings ++ more)).entries.map fun e => .fill e.1 e.2)
      = ofSettings (settings ++ more) := by
  have hentries : (ofSettings
      (settings ++ (ofSettings (settings ++ more)).entries.map fun e => .fill e.1 e.2)).entries
        = (ofSettings (settings ++ more)).entries := by
    rw [entries_ofSettings_append, ofSettings_entries, entries_ofSettings_append,
      Entries.override_override (ofSettings settings).nodup]
  generalize ofSettings (settings ++ more) = slots at hentries ⊢
  obtain ⟨es, hnodup⟩ := slots
  rw [mk.injEq]
  exact hentries

/-! ## The plan of the argument list -/

/-- **The config asks for the test's artifacts to be kept**, by a segment of its words. -/
def Config.KeepsArtifacts (cfg : Config) : Prop :=
  ∃ ss : List Segment, Segment.spread ss = cfg.words ∧
    Setting.keepArtifacts ∈ ss.flatMap Segment.settings

theorem Config.keepsArtifacts_iff {cfg : Config} {settings : List Setting}
    (h : readPresets cfg.words = .ok settings) :
    cfg.KeepsArtifacts ↔ Setting.keepArtifacts ∈ settings := by
  obtain ⟨ss, hspread, -, rfl⟩ := exists_spread_of_readPresets h
  refine ⟨fun ⟨ss', hspread', hmem⟩ => ?_, fun hmem => ⟨ss, hspread, hmem⟩⟩
  rwa [← Segment.spread_injective (hspread'.trans hspread.symm)]

namespace LaunchPlan

/-- **The first settings in front of a plan's own argument list**: the plan is what it was, but for
what is passed on, and for the directory for artifacts if these settings ask for it. -/
theorem ofReading_again (settings more : List Setting) (loose : List String) :
    let p := ofReading ⟨settings ++ more, loose⟩
    let artifactsDir? :=
      if Setting.keepArtifacts ∈ settings then p.outputDir?.bind artifactsDirIn? else none
    ofReading ⟨settings ++ (Slots.ofSettings (settings ++ more)).entries.map
        (fun e => .fill e.1 e.2), p.executable?.toList ++ p.testArgs⟩ =
      { p with
        launcherArgs :=
          launcherArgsOf p.slotArgs p.executable? (testArgsOf artifactsDir? p.testArgs)
        passedOn := p.testArgs
        artifactsDir? } := by
  intro p artifactsDir?
  have hkeep : Setting.keepArtifacts ∈ settings ++
      (Slots.ofSettings (settings ++ more)).entries.map (fun e => Setting.fill e.1 e.2) ↔
        Setting.keepArtifacts ∈ settings := by
    simp
  rw [ofReading, Scan.ofReading, Scan.finish]
  simp only [Slots.ofSettings_append_entries, hkeep, decide_eq_true_iff]
  rw [find?_executable_append, eraseP_executable_append]
  rfl

end LaunchPlan

/-- A directory for artifacts is derived from any output directory but the empty one. -/
theorem artifactsDirIn?_eq_none_iff {outputDir : String} :
    artifactsDirIn? outputDir = none ↔ outputDir = "" := by
  rw [artifactsDirIn?]
  split <;> simp [*]

/-- **Wrapping again under the same config.**  The launcher's argument list without the shard has a
plan under the config as well, with the same slots, executable and output directory, and what the
test was given is all passed on.  The argument list is the same, unless the config asks for the
test's artifacts to be kept and there is an output directory that is not empty; then the test is
told once more, in front, where its artifacts go. -/
theorem Config.plan_launcherArgs_same {cfg : Config} {arguments : List String} {p : LaunchPlan}
    (h : cfg.plan arguments = .ok p) :
    ∃ p' : LaunchPlan, cfg.plan (p.launcherArgs.drop 2) = .ok p' ∧
      p'.slotArgs = p.slotArgs ∧ p'.executable? = p.executable? ∧
      p'.outputDir? = p.outputDir? ∧ p'.passedOn = p.testArgs ∧
      (¬ (cfg.KeepsArtifacts ∧ ∃ dir, p.outputDir? = some dir ∧ dir ≠ "") →
        p'.launcherArgs = p.launcherArgs) ∧
      (cfg.KeepsArtifacts → ∀ dir, p.outputDir? = some dir → dir ≠ "" →
        ∃ kept, p.artifactsDir? = some kept ∧ p'.artifactsDir? = some kept ∧
          p'.testArgs = (artifactsFlag ++ "=" ++ kept) :: p.testArgs) := by
  obtain ⟨settings, line, hpresets, hline, rfl⟩ := exists_readings_of_planWith h
  have hcomplete : ∀ st ∈ settings ++ line.settings, st.IsComplete := by
    obtain ⟨ss, -, -, rfl⟩ := exists_spread_of_readPresets hpresets
    obtain ⟨l, -, rfl⟩ := exists_layout_of_readArguments hline
    rw [Layout.reading, ← List.flatMap_append]
    exact Segment.isComplete_of_mem_flatMap
  have hagain := LaunchPlan.ofReading_again settings line.settings line.loose
  rw [keepsArtifacts_iff hpresets, Config.plan, planWith_of_readPresets hpresets,
    LaunchPlan.readArguments_drop_launcherArgs hcomplete]
  refine ⟨_, congrArg Except.ok hagain, rfl, rfl, rfl, rfl, fun hnot => ?_,
    fun hkeep dir hdir hne => ?_⟩
  · have hnone : (if Setting.keepArtifacts ∈ settings then
        (LaunchPlan.ofReading ⟨settings ++ line.settings, line.loose⟩).outputDir?.bind
          artifactsDirIn? else none) = none := by
      refine ite_eq_right_iff.2 fun hkeep => Option.bind_eq_none_iff.2 fun dir hdir => ?_
      refine artifactsDirIn?_eq_none_iff.2 ?_
      by_contra hne
      exact hnot ⟨hkeep, dir, hdir, hne⟩
    dsimp only
    rw [hnone]
    rfl
  · obtain ⟨kept, hkept⟩ : ∃ kept, artifactsDirIn? dir = some kept :=
      Option.ne_none_iff_exists'.1 (mt artifactsDirIn?_eq_none_iff.1 hne)
    have hderived : (LaunchPlan.ofReading ⟨settings ++ line.settings, line.loose⟩).outputDir?.bind
        artifactsDirIn? = some kept := by
      rw [hdir]
      exact hkept
    refine ⟨kept, ?_, ?_, ?_⟩
    · rw [LaunchPlan.artifactsDir?_ofReading]
      exact (if_pos (List.mem_append_left _ hkeep)).trans hderived
    · exact (if_pos hkeep).trans hderived
    · rw [LaunchPlan.testArgs]
      dsimp only
      rw [if_pos hkeep, hderived]
      rfl

/-- A config that asks for artifacts to be kept tells the test a second time where they go; one that
leaves this to the command line does not. -/
theorem Config.plan_launcherArgs_same_artifacts :
    let keeping : Config := { Config.empty with
      outputDir? := some "out/", extraArgs? := some ["--store-test-artifacts"] }
    let plain : Config := { Config.empty with outputDir? := some "out", workers? := some 2 }
    keeping.plan ["prog", "--", "x"] = .ok
      ⟨["--shard_index=0", "--shard_count=1", "--output_dir=out/", "prog", "--",
          "--test_artifacts_dir=out/test_artifacts", "x"],
        ["--output_dir=out/"], some "prog", ["x"], some "out/", some "out/test_artifacts"⟩ ∧
    keeping.KeepsArtifacts ∧
    (∃ p', keeping.plan ["--output_dir=out/", "prog", "--",
        "--test_artifacts_dir=out/test_artifacts", "x"] = .ok p' ∧
      p'.testArgs = ["--test_artifacts_dir=out/test_artifacts",
        "--test_artifacts_dir=out/test_artifacts", "x"]) ∧
    plain.plan ["--store-test-artifacts", "prog", "-w", "4"] = .ok
      ⟨["--shard_index=0", "--shard_count=1", "--output_dir=out", "--workers=4", "prog", "--",
          "--test_artifacts_dir=out/test_artifacts"],
        ["--output_dir=out", "--workers=4"], some "prog", [], some "out",
        some "out/test_artifacts"⟩ ∧
    ¬ plain.KeepsArtifacts ∧
    ∃ p', plain.plan ["--output_dir=out", "--workers=4", "prog", "--",
        "--test_artifacts_dir=out/test_artifacts"] = .ok p' ∧
      p'.launcherArgs = ["--shard_index=0", "--shard_count=1", "--output_dir=out", "--workers=4",
        "prog", "--", "--test_artifacts_dir=out/test_artifacts"] := by
  intro keeping plain
  have hread : readPresets plain.words
      = .ok [.fill .outputDir (some "out"), .fill .workers (some "2")] := by
    decide
  refine ⟨?keepingPlan, ?keeps, ?_, ?plainPlan, ?plainKeeps, ?_⟩
  · decide
  · exact ⟨[.inline .outputDir "out/" rfl,
      .switch .storeTestArtifacts "--store-test-artifacts" rfl rfl], by decide, by decide⟩
  · have hplan := ?keepingPlan
    obtain ⟨p', hp', -, -, -, -, -, htold⟩ := plan_launcherArgs_same hplan
    obtain ⟨kept, hkept, -, hargs⟩ := htold ?keeps "out/" rfl (by decide)
    obtain rfl := Option.some.inj hkept
    exact ⟨p', hp', hargs⟩
  · decide
  · exact mt (keepsArtifacts_iff hread).1 (by decide)
  · have hplan := ?plainPlan
    obtain ⟨p', hp', -, -, -, -, hsame, -⟩ := plan_launcherArgs_same hplan
    exact ⟨p', hp', hsame fun hnot => ?plainKeeps hnot.1⟩

end LaunchLine
