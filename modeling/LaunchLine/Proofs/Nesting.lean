import LaunchLine.Proofs.Divider
import LaunchLine.Proofs.Rewrapping

/-!
# Proofs/Nesting — the whole argument list, as a command line again

The launcher's argument list begins with the shard, whose words are not the wrapper's and not bare.
Given to the wrapper once more as it stands, the list has a plan that differs in one thing: the
shard is passed on to the test, in front of what the test was given before
(`LaunchPlan.plan_launcherArgs`).  Every round adds a shard, `Config.plan_nested`.
-/

namespace LaunchLine

theorem readArguments_singleShard : readArguments singleShard = .ok ⟨[], singleShard⟩ := by
  decide

theorem divider_notMem_singleShard : divider ∉ singleShard := by
  decide

theorem not_isBare_of_mem_singleShard : ∀ word ∈ singleShard, ¬ isBare word = true := by
  decide

namespace LaunchPlan

/-! ## One round -/

/-- **The whole argument list is read back**: the shard is loose, in front of all other loose words.
-/
theorem readArguments_launcherArgs {r : Reading} (h : ∀ st ∈ r.settings, st.IsComplete) :
    readArguments (ofReading r).launcherArgs =
      .ok ⟨(Slots.ofSettings r.settings).entries.map fun e => .fill e.1 e.2,
        singleShard ++ ((ofReading r).executable?.toList ++ (ofReading r).testArgs)⟩ := by
  have hargs : (ofReading r).launcherArgs = singleShard ++ (ofReading r).launcherArgs.drop 2 := rfl
  rw [hargs, readArguments_append divider_notMem_singleShard readArguments_singleShard,
    readArguments_drop_launcherArgs h]
  rfl

/-- **The whole argument list plans the same launch**, but that the shard is passed on to the test.
-/
theorem plan_launcherArgs {r : Reading} (h : ∀ st ∈ r.settings, st.IsComplete) :
    LaunchLine.plan (ofReading r).launcherArgs =
      .ok { ofReading r with
        launcherArgs := launcherArgsOf (ofReading r).slotArgs (ofReading r).executable?
          (singleShard ++ (ofReading r).testArgs)
        passedOn := singleShard ++ (ofReading r).testArgs
        artifactsDir? := none } := by
  have hexe : (singleShard ++ ((ofReading r).executable?.toList ++ (ofReading r).testArgs)).find?
      isBare = (ofReading r).executable? := by
    rw [List.find?_append, List.find?_eq_none.2 not_isBare_of_mem_singleShard, Option.none_or]
    exact find?_executable_append r
  have hpassed :
      (singleShard ++ ((ofReading r).executable?.toList ++ (ofReading r).testArgs)).eraseP isBare =
        singleShard ++ (ofReading r).testArgs := by
    rw [List.eraseP_append_right _ not_isBare_of_mem_singleShard, eraseP_executable_append]
  rw [plan_eq, readArguments_launcherArgs h]
  exact congrArg Except.ok (ofReading_entries r hexe hpassed)

/-! ## Round after round -/

/-- The plan of a plan's whole argument list, and again, the given number of times. -/
def nest : Nat → LaunchPlan → Except ArgumentError LaunchPlan
  | 0, p => .ok p
  | n + 1, p => (LaunchLine.plan p.launcherArgs).bind (nest n)

/-- **One plan wraps another**, in the given number of shards: the launcher is told the same, and
the test is given the shards in front of what it was given before. -/
structure Wraps (n : Nat) (q p : LaunchPlan) : Prop where
  slotArgs : q.slotArgs = p.slotArgs
  executable? : q.executable? = p.executable?
  outputDir? : q.outputDir? = p.outputDir?
  testArgs : q.testArgs = (List.replicate n singleShard).flatten ++ p.testArgs

theorem Wraps.refl (p : LaunchPlan) : Wraps 0 p p :=
  ⟨rfl, rfl, rfl, rfl⟩

theorem Wraps.trans {m n : Nat} {p q r : LaunchPlan} (h : Wraps m r q) (h' : Wraps n q p) :
    Wraps (m + n) r p where
  slotArgs := h.slotArgs.trans h'.slotArgs
  executable? := h.executable?.trans h'.executable?
  outputDir? := h.outputDir?.trans h'.outputDir?
  testArgs := by
    rw [h.testArgs, h'.testArgs, ← List.append_assoc, ← List.flatten_append,
      List.replicate_append_replicate]

/-- **One round adds one shard.** -/
theorem exists_wraps_of_planWith {presets arguments : List String} {p : LaunchPlan}
    (h : planWith presets arguments = .ok p) :
    ∃ q : LaunchPlan, LaunchLine.plan p.launcherArgs = .ok q ∧ Wraps 1 q p := by
  obtain ⟨r, hcomplete, rfl⟩ := exists_reading_of_planWith h
  exact ⟨_, plan_launcherArgs hcomplete, rfl, rfl, rfl, rfl⟩

theorem exists_nest_of_planWith {presets arguments : List String} {p : LaunchPlan}
    (h : planWith presets arguments = .ok p) (n : Nat) :
    ∃ q : LaunchPlan, nest n p = .ok q ∧ Wraps n q p := by
  induction n generalizing presets arguments p with
  | zero => exact ⟨p, rfl, .refl p⟩
  | succ n ih =>
    obtain ⟨q, hq, hwraps⟩ := exists_wraps_of_planWith h
    obtain ⟨last, hlast, hwraps'⟩ := ih ((plan_eq_planWith _).symm.trans hq)
    refine ⟨last, ?_, hwraps'.trans hwraps⟩
    rw [nest, hq]
    exact hlast

end LaunchPlan

/-- **Wrapping with the shard left in place.**  However many times the launcher's whole argument
list is given to the wrapper again, there is a plan each time: the slots, the executable and the
output directory stay what they were, and the test is given as many shards as there were rounds, and
behind them what it was given at first. -/
theorem Config.plan_nested {cfg : Config} {arguments : List String} {p : LaunchPlan}
    (h : cfg.plan arguments = .ok p) (n : Nat) :
    ∃ q : LaunchPlan, LaunchPlan.nest n p = .ok q ∧
      q.slotArgs = p.slotArgs ∧ q.executable? = p.executable? ∧ q.outputDir? = p.outputDir? ∧
      q.testArgs = (List.replicate n singleShard).flatten ++ p.testArgs := by
  obtain ⟨q, hq, hwraps⟩ := LaunchPlan.exists_nest_of_planWith h n
  exact ⟨q, hq, hwraps.slotArgs, hwraps.executable?, hwraps.outputDir?, hwraps.testArgs⟩

/-- There is no executable, and no word of the shards becomes one; the directory for artifacts is
derived in the first round only. -/
theorem Config.plan_nested_artifacts :
    let p : LaunchPlan :=
      ⟨["--shard_index=0", "--shard_count=1", "--output_dir=out/", "--",
          "--test_artifacts_dir=out/test_artifacts", "-x"],
        ["--output_dir=out/"], none, ["-x"], some "out/", some "out/test_artifacts"⟩
    Config.plan { Config.empty with outputDir? := some "out/", storeTestArtifacts? := some true }
      ["-x"] = .ok p ∧
    ∃ q : LaunchPlan, LaunchPlan.nest 2 p = .ok q ∧ q.slotArgs = ["--output_dir=out/"] ∧
      q.executable? = none ∧ q.outputDir? = some "out/" ∧
      q.testArgs = ["--shard_index=0", "--shard_count=1", "--shard_index=0", "--shard_count=1",
        "--test_artifacts_dir=out/test_artifacts", "-x"] := by
  intro p
  refine ⟨?h, ?_⟩
  · decide
  · have hplan := ?h
    exact plan_nested hplan 2

end LaunchLine
