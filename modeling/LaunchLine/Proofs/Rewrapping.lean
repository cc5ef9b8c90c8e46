import LaunchLine.Proofs.FirstPlace
import LaunchLine.Proofs.LooseWords

/-!
# Proofs/Rewrapping — the launcher's argument list, as a command line again

What the launcher is told can be given to the wrapper once more, with the shard or without.  Every
filled slot is told in a form that the wrapper reads as filling this slot with this value; the
executable is bare, so it is loose; and the arguments of the test are behind the divider, so they
are passed on.  Without the shard the wrapper answers with the same argument list.
-/

namespace LaunchLine

/-! ## Slots are told as they are read -/

/-- A setting that gives a value exactly to a slot that holds one. -/
def Setting.IsComplete (setting : Setting) : Prop :=
  ∀ slot value?, setting.filling? = some (slot, value?) → value?.isSome = slot.takesValue

theorem Flag.isComplete_setting {flag : Flag} {value? : Option String}
    (h : value?.isSome = flag.takesValue) : (flag.setting value?).IsComplete := by
  intro slot value?' hfill
  rw [Flag.takesValue] at h
  rw [Flag.setting] at hfill
  cases heffect : flag.effect with
  | keepArtifacts => simp [heffect, Setting.filling?] at hfill
  | fill slot' =>
    simp only [heffect, Setting.filling?, Option.some.injEq, Prod.mk.injEq] at hfill h
    obtain ⟨rfl, rfl⟩ := hfill
    exact h

namespace Segment

theorem isComplete_of_mem_settings {s : Segment} {setting : Setting} (h : setting ∈ s.settings) :
    setting.IsComplete := by
  cases s with
  | loose => cases h
  | switch flag _ _ valueless =>
    obtain rfl := List.mem_singleton.1 h
    exact Flag.isComplete_setting valueless.symm
  | inline flag _ takes | split flag _ _ _ takes _ =>
    obtain rfl := List.mem_singleton.1 h
    exact Flag.isComplete_setting takes.symm

theorem isComplete_of_mem_flatMap {ss : List Segment} :
    ∀ setting ∈ ss.flatMap settings, setting.IsComplete := by
  intro setting h
  obtain ⟨s, -, hs⟩ := List.mem_flatMap.1 h
  exact isComplete_of_mem_settings hs

/-- A spelling is a segment by itself, unless the flag waits for a value. -/
theorem exists_words_of_spells {flag : Flag} {word : String} {value? : Option String}
    (h : flag.Spells word value?) (hvalue : value?.isSome = flag.takesValue) :
    ∃ s : Segment, s.words = [word] ∧ s.settings = [flag.setting value?] ∧
      s.looseWords = [] := by
  obtain named | ⟨value, takes⟩ := h
  · exact ⟨.switch flag word named hvalue.symm, rfl, rfl, rfl⟩
  · exact ⟨.inline flag value takes, rfl, rfl, rfl⟩

/-- **The segment that tells a filled slot**, by the flag of the slot's own name. -/
theorem exists_words_eq_render {slot : Slot} {value? : Option String}
    (h : value?.isSome = slot.takesValue) :
    ∃ s : Segment, s.words = [slot.render value?] ∧ s.settings = [.fill slot value?] ∧
      s.looseWords = [] := by
  have hsetting : slot.flag.setting value? = .fill slot value? := by
    rw [Flag.setting, Slot.effect_flag]
  rw [← hsetting]
  exact exists_words_of_spells (Slot.spells_render h) (h.trans slot.takesValue_flag.symm)

/-- A row of filled slots is told by a row of segments. -/
theorem exists_spread_eq_render {es : List (Slot × Option String)}
    (h : ∀ e ∈ es, e.2.isSome = e.1.takesValue) :
    ∃ ss : List Segment, spread ss = es.map (fun e => e.1.render e.2) ∧
      ss.flatMap settings = es.map (fun e => .fill e.1 e.2) ∧ ss.flatMap looseWords = [] := by
  induction es with
  | nil => exact ⟨[], rfl, rfl, rfl⟩
  | cons e es ih =>
    obtain ⟨s, hwords, hsettings, hloose⟩ := exists_words_eq_render (h e List.mem_cons_self)
    obtain ⟨ss, hspread, hfills, hnone⟩ := ih fun d hd => h d (List.mem_cons_of_mem e hd)
    refine ⟨s :: ss, ?_, ?_, ?_⟩
    · rw [spread_cons, hwords, hspread]
      rfl
    · rw [List.flatMap_cons, hsettings, hfills]
      rfl
    · rw [List.flatMap_cons, hloose, hnone]
      rfl

end Segment

namespace Slots

/-- Complete settings fill slots as the slots want it. -/
theorem isSome_of_mem_entries {settings : List Setting} (h : ∀ st ∈ settings, st.IsComplete)
    {e : Slot × Option String} (he : e ∈ (ofSettings settings).entries) :
    e.2.isSome = e.1.takesValue := by
  rw [entries_ofSettings] at he
  obtain ⟨before, after, hsplit, -⟩ := (Entries.isDigest_putAll _).last e.1 e.2 he
  have hmem : e ∈ settings.filterMap Setting.filling? := by
    rw [hsplit]
    exact List.mem_append_right _ List.mem_cons_self
  exact h _ (Setting.mem_filterMap_filling?.1 hmem) e.1 e.2 rfl

/-- Filling slots as they are filled changes nothing. -/
theorem ofSettings_entries (slots : Slots) :
    ofSettings (slots.entries.map fun e => .fill e.1 e.2) = slots := by
  have hfill : (slots.entries.map fun e => Setting.fill e.1 e.2).filterMap Setting.filling?
      = slots.entries := by
    rw [List.filterMap_map]
    exact List.filterMap_some
  have hentries : (ofSettings (slots.entries.map fun e => .fill e.1 e.2)).entries
      = slots.entries := by
    rw [entries_ofSettings, hfill, Entries.putAll_of_nodup slots.nodup]
  obtain ⟨es, hnodup⟩ := slots
  rw [mk.injEq]
  exact hentries

end Slots

/-! ## The argument list, laid out -/

namespace LaunchPlan

theorem slotArgs_ofReading (r : Reading) :
    (ofReading r).slotArgs = (Slots.ofSettings r.settings).render := rfl

theorem outputDir?_ofReading (r : Reading) :
    (ofReading r).outputDir? = (Slots.ofSettings r.settings).value? .outputDir := rfl

theorem drop_launcherArgs_ofReading (r : Reading) :
    (ofReading r).launcherArgs.drop 2 =
      (Slots.ofSettings r.settings).render ++ (ofReading r).executable?.toList ++
        if (ofReading r).testArgs = [] then [] else divider :: (ofReading r).testArgs := rfl

theorem isBare_of_executable? {r : Reading} {exe : String}
    (h : (ofReading r).executable? = some exe) : isBare exe = true :=
  List.find?_some h

/-- The segment of the executable, if there is one. -/
theorem exists_spread_eq_executable (r : Reading) :
    ∃ ss : List Segment, Segment.spread ss = (ofReading r).executable?.toList ∧
      ss.flatMap Segment.settings = [] ∧
      ss.flatMap Segment.looseWords = (ofReading r).executable?.toList := by
  cases hexe : (ofReading r).executable? with
  | none => exact ⟨[], rfl, rfl, rfl⟩
  | some exe =>
    have hbare := isBare_of_executable? hexe
    exact ⟨[.loose exe (isForeign_of_isBare hbare) (ne_divider_of_isBare hbare)], rfl, rfl, rfl⟩

/-- **The layout of what the launcher is told**, behind the shard. -/
theorem exists_layout_launcherArgs {r : Reading} (h : ∀ st ∈ r.settings, st.IsComplete) :
    ∃ l : Layout, l.words = (ofReading r).launcherArgs.drop 2 ∧
      l.segments.flatMap Segment.settings
        = (Slots.ofSettings r.settings).entries.map (fun e => .fill e.1 e.2) ∧
      l.looseWords = (ofReading r).executable?.toList ++ (ofReading r).testArgs := by
  obtain ⟨slots, hslots, hfills, hnone⟩ :=
    Segment.exists_spread_eq_render fun e he => Slots.isSome_of_mem_entries h he
  obtain ⟨exe, hexe, hsets, hloose⟩ := exists_spread_eq_executable r
  refine ⟨⟨slots ++ exe, if (ofReading r).testArgs = [] then none else
    some (ofReading r).testArgs⟩, ?_, ?_, ?_⟩
  · rw [drop_launcherArgs_ofReading, Layout.words, Segment.spread_append, hslots, hexe]
    by_cases htest : (ofReading r).testArgs = [] <;> simp [Layout.tail, htest, Slots.render]
  · rw [List.flatMap_append, hfills, hsets, List.append_nil]
  · rw [Layout.looseWords, List.flatMap_append, hnone, hloose]
    by_cases htest : (ofReading r).testArgs = [] <;> simp [htest]

/-! ## The plan of it -/

/-- A plan comes of complete settings. -/
theorem exists_reading_of_planWith {presets arguments : List String} {p : LaunchPlan}
    (h : planWith presets arguments = .ok p) :
    ∃ r : Reading, (∀ st ∈ r.settings, st.IsComplete) ∧ p = ofReading r := by
  obtain ⟨ss, l, -, -, -, rfl⟩ := exists_segments_of_planWith h
  exact ⟨_, Segment.isComplete_of_mem_flatMap, rfl⟩

/-- Without an executable nothing that the test is given is bare. -/
theorem isBare_eq_false_of_mem_testArgs {r : Reading} (h : (ofReading r).executable? = none) :
    ∀ w ∈ (ofReading r).testArgs, isBare w = false := by
  have hloose : ∀ w ∈ r.loose, isBare w = false := fun w hw => by
    simpa using List.find?_eq_none.1 h w hw
  intro w hw
  rcases List.mem_append.1 hw with hdir | hpassed
  · rw [Option.mem_toList, Option.map_eq_some_iff] at hdir
    obtain ⟨dir, -, rfl⟩ := hdir
    simp [isBare, artifactsFlag, String.toList_append]
  · exact hloose w (List.mem_of_mem_eraseP hpassed)

theorem find?_executable_append (r : Reading) :
    ((ofReading r).executable?.toList ++ (ofReading r).testArgs).find? isBare
      = (ofReading r).executable? := by
  cases hexe : (ofReading r).executable? with
  | none =>
    refine List.find?_eq_none.2 fun w hw => ?_
    rw [isBare_eq_false_of_mem_testArgs hexe w hw]
    exact Bool.false_ne_true
  | some exe => exact List.find?_cons_of_pos (isBare_of_executable? hexe)

theorem eraseP_executable_append (r : Reading) :
    ((ofReading r).executable?.toList ++ (ofReading r).testArgs).eraseP isBare
      = (ofReading r).testArgs := by
  cases hexe : (ofReading r).executable? with
  | none =>
    refine List.eraseP_of_forall_not fun w hw => ?_
    rw [isBare_eq_false_of_mem_testArgs hexe w hw]
    exact Bool.false_ne_true
  | some exe => exact List.eraseP_cons_of_pos (isBare_of_executable? hexe)

/-- **The launcher's argument list is read back**: its settings fill the slots as they are, and its
loose words are the executable and the arguments of the test. -/
theorem readArguments_drop_launcherArgs {r : Reading} (h : ∀ st ∈ r.settings, st.IsComplete) :
    readArguments ((ofReading r).launcherArgs.drop 2) =
      .ok ⟨(Slots.ofSettings r.settings).entries.map fun e => .fill e.1 e.2,
        (ofReading r).executable?.toList ++ (ofReading r).testArgs⟩ := by
  obtain ⟨l, hwords, hsettings, hloose⟩ := exists_layout_launcherArgs h
  rw [← hwords, readArguments_layout, Layout.reading, hsettings, hloose]

/-- **The plan of slots as they are filled already**, whatever the loose words besides the
executable: these are all passed on, and no directory for artifacts is asked for. -/
theorem ofReading_entries (r : Reading) {loose passedOn : List String}
    (hexe : loose.find? isBare = (ofReading r).executable?)
    (hpassed : loose.eraseP isBare = passedOn) :
    ofReading ⟨(Slots.ofSettings r.settings).entries.map fun e => .fill e.1 e.2, loose⟩ =
      { ofReading r with
        launcherArgs := launcherArgsOf (ofReading r).slotArgs (ofReading r).executable? passedOn
        passedOn
        artifactsDir? := none } := by
  have hkeep : Setting.keepArtifacts ∉
      (Slots.ofSettings r.settings).entries.map fun e => Setting.fill e.1 e.2 := by
    simp
  rw [ofReading, Scan.ofReading, Scan.finish]
  simp only [Slots.ofSettings_entries, decide_eq_false hkeep, hexe, hpassed]
  rfl

/-- **The launcher's argument list plans itself**: only what the test is given is all passed on now,
the directory for artifacts with it. -/
theorem plan_drop_launcherArgs {r : Reading} (h : ∀ st ∈ r.settings, st.IsComplete) :
    LaunchLine.plan ((ofReading r).launcherArgs.drop 2) =
      .ok { ofReading r with passedOn := (ofReading r).testArgs, artifactsDir? := none } := by
  rw [plan_eq, readArguments_drop_launcherArgs h]
  exact congrArg Except.ok
    (ofReading_entries r (find?_executable_append r) (eraseP_executable_append r))

/-- The plan of a plan's argument list without the shard, and again, the given number of times. -/
def rewrap : Nat → LaunchPlan → Except ArgumentError LaunchPlan
  | 0, p => .ok p
  | n + 1, p => (LaunchLine.plan (p.launcherArgs.drop 2)).bind (rewrap n)

theorem rewrap_of_plan_eq {p : LaunchPlan}
    (h : LaunchLine.plan (p.launcherArgs.drop 2) = .ok p) (n : Nat) : rewrap n p = .ok p := by
  induction n with
  | zero => rfl
  | succ n ih =>
    rw [rewrap, h]
    exact ih

/-- **Wrapping again changes a plan once at most.**  The launcher's argument list without the shard
has a plan with the same argument list, slots, executable and output directory; what was derived for
the test is now passed on, and nothing is derived any more.  Every further plan is this one. -/
theorem plan_launcherArgs_again {cfg : Config} {arguments : List String} {p : LaunchPlan}
    (h : cfg.plan arguments = .ok p ∨ LaunchLine.plan arguments = .ok p) :
    ∃ p' : LaunchPlan, LaunchLine.plan (p.launcherArgs.drop 2) = .ok p' ∧
      p'.launcherArgs = p.launcherArgs ∧ p'.slotArgs = p.slotArgs ∧
      p'.executable? = p.executable? ∧ p'.outputDir? = p.outputDir? ∧
      p'.artifactsDir? = none ∧ p'.passedOn = p.testArgs ∧
      ∀ n, rewrap (n + 1) p = .ok p' := by
  have hplan : ∃ presets, planWith presets arguments = .ok p := by
    rcases h with h | h
    · exact ⟨cfg.words, h⟩
    · exact ⟨[], (plan_eq_planWith arguments).symm.trans h⟩
  obtain ⟨presets, hplan⟩ := hplan
  obtain ⟨r, hcomplete, rfl⟩ := exists_reading_of_planWith hplan
  have hagain := plan_drop_launcherArgs hcomplete
  refine ⟨_, hagain, rfl, rfl, rfl, rfl, rfl, rfl, fun n => ?_⟩
  rw [rewrap, hagain]
  exact rewrap_of_plan_eq hagain n

/-- The directory for artifacts is derived once, and passed on from then on. -/
theorem plan_launcherArgs_again_artifacts :
    Config.plan { Config.empty with outputDir? := some "out/", storeTestArtifacts? := some true }
      ["prog", "--", "x"] = .ok
      ⟨["--shard_index=0", "--shard_count=1", "--output_dir=out/", "prog", "--",
          "--test_artifacts_dir=out/test_artifacts", "x"],
        ["--output_dir=out/"], some "prog", ["x"], some "out/", some "out/test_artifacts"⟩ ∧
    ∃ p' : LaunchPlan,
      LaunchLine.plan ["--output_dir=out/", "prog", "--",
        "--test_artifacts_dir=out/test_artifacts", "x"] = .ok p' ∧
      p'.launcherArgs = ["--shard_index=0", "--shard_count=1", "--output_dir=out/", "prog", "--",
        "--test_artifacts_dir=out/test_artifacts", "x"] ∧
      p'.artifactsDir? = none ∧ p'.passedOn = ["--test_artifacts_dir=out/test_artifacts", "x"] := by
  refine ⟨?h, ?_⟩
  · decide
  · obtain ⟨p', hplan, hargs, -, -, -, hdir, hpassed, -⟩ := plan_launcherArgs_again (.inl ?h)
    exact ⟨p', hplan, hargs, hdir, hpassed⟩

end LaunchPlan

end LaunchLine
