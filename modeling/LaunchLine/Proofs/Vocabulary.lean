import LaunchLine.Proofs.Rewrapping

/-!
# Proofs/Vocabulary — which words the launcher itself is given

In front of the divider the launcher is given the shard, the filled slots and the executable; behind
it stand the arguments of the test.  A filled slot is told in a word that the wrapper knows as well,
by the slot's own name, and such a word is neither bare nor the divider.  So whatever a command line
holds, the first divider is the one in front of the test's arguments, and the executable is the only
bare word before it: `Config.plan_vocabulary`.
-/

namespace LaunchLine

/-! ## Words that tell a slot -/

/-- **A word in which the launcher is told a slot**: the wrapper recognises it as a flag for this
slot, and the name in it is both the flag's own and the one under which the slot is told. -/
def TellsSlot (word : String) : Prop :=
  ∃ (flag : Flag) (slot : Slot) (value? : Option String), word = slot.render value? ∧
    recognize? word = some (flag, value?) ∧ flag.effect = .fill slot ∧ flag.long = slot.name

theorem Slot.tellsSlot_render {slot : Slot} {value? : Option String}
    (h : value?.isSome = slot.takesValue) : TellsSlot (slot.render value?) :=
  ⟨slot.flag, slot, value?, rfl, recognize?_eq_some_iff.2 (spells_render h), slot.effect_flag,
    slot.long_flag⟩

namespace TellsSlot

variable {word : String}

theorem not_isForeign (h : TellsSlot word) : ¬ IsForeign word := by
  obtain ⟨flag, slot, value?, -, hrecognized, -⟩ := h
  exact fun hforeign => hforeign flag value? (recognize?_eq_some_iff.1 hrecognized)

theorem ne_divider (h : TellsSlot word) : word ≠ divider :=
  fun hdivider => h.not_isForeign (hdivider ▸ isForeign_divider)

theorem isBare_eq_false (h : TellsSlot word) : isBare word = false :=
  Bool.eq_false_iff.2 fun hbare => h.not_isForeign (isForeign_of_isBare hbare)

end TellsSlot

/-! ## In front of the divider -/

theorem ne_divider_of_mem_singleShard {word : String} (h : word ∈ singleShard) :
    word ≠ divider := by
  rintro rfl
  exact absurd h (by decide)

theorem isBare_eq_false_of_mem_singleShard :
    ∀ word ∈ singleShard, isBare word = false := by
  decide

namespace LaunchPlan

variable {r : Reading}

/-- **Every filled slot is told in a word for it.** -/
theorem tellsSlot_of_mem_slotArgs (h : ∀ st ∈ r.settings, st.IsComplete) :
    ∀ word ∈ (ofReading r).slotArgs, TellsSlot word := by
  intro word hword
  obtain ⟨e, he, rfl⟩ := List.mem_map.1 hword
  exact Slot.tellsSlot_render (Slots.isSome_of_mem_entries h he)

/-- **No divider in front**: not the shard, nor a filled slot, nor the executable. -/
theorem ne_divider_of_mem_front (h : ∀ st ∈ r.settings, st.IsComplete) :
    ∀ word ∈ singleShard ++ (ofReading r).slotArgs ++ (ofReading r).executable?.toList,
      word ≠ divider := by
  intro word hword
  rcases List.mem_append.1 hword with hword | hexe
  · rcases List.mem_append.1 hword with hshard | hslot
    · exact ne_divider_of_mem_singleShard hshard
    · exact (tellsSlot_of_mem_slotArgs h word hslot).ne_divider
  · exact ne_divider_of_isBare (isBare_of_executable? (Option.mem_toList.1 hexe))

end LaunchPlan

/-- What stands in front of the first divider, if there is one only to mark what follows. -/
theorem takeWhile_append_marked {front : List String} (h : ∀ word ∈ front, word ≠ divider)
    (behind : List String) :
    (front ++ if behind = [] then [] else divider :: behind).takeWhile (· ≠ divider) = front := by
  rw [List.takeWhile_append_of_pos fun word hword => decide_eq_true (h word hword)]
  split <;> simp

/-- **The launcher's own vocabulary is closed.**  The launcher is given the shard, the filled
slots, the executable and, if the test has arguments, these behind a divider.  The first divider is
this one, and without arguments of the test there is none.  Before it, every word but the shard and
the executable tells a slot by its own name; and the executable is bare, which no other word there
is. -/
theorem Config.plan_vocabulary {cfg : Config} {arguments : List String} {p : LaunchPlan}
    (h : cfg.plan arguments = .ok p) :
    p.launcherArgs = singleShard ++ p.slotArgs ++ p.executable?.toList ++
      (if p.testArgs = [] then [] else divider :: p.testArgs) ∧
    p.launcherArgs.takeWhile (· ≠ divider) = singleShard ++ p.slotArgs ++ p.executable?.toList ∧
    (divider ∈ p.launcherArgs ↔ p.testArgs ≠ []) ∧
    (∀ word ∈ p.slotArgs, TellsSlot word) ∧
    (∀ word ∈ singleShard ++ p.slotArgs, isBare word = false) ∧
    ∀ exe, p.executable? = some exe → isBare exe = true := by
  obtain ⟨r, hcomplete, rfl⟩ := LaunchPlan.exists_reading_of_planWith h
  have hslots := LaunchPlan.tellsSlot_of_mem_slotArgs hcomplete
  have hfront := LaunchPlan.ne_divider_of_mem_front hcomplete
  have hargs : (LaunchPlan.ofReading r).launcherArgs = singleShard ++
      (LaunchPlan.ofReading r).slotArgs ++ (LaunchPlan.ofReading r).executable?.toList ++
      (if (LaunchPlan.ofReading r).testArgs = [] then []
        else divider :: (LaunchPlan.ofReading r).testArgs) := rfl
  refine ⟨hargs, ?_, ?_, hslots, ?_, fun exe hexe => LaunchPlan.isBare_of_executable? hexe⟩
  · rw [hargs]
    exact takeWhile_append_marked hfront _
  · rw [hargs, List.mem_append, or_iff_right fun hmem => hfront divider hmem rfl]
    split <;> simp_all
  · exact List.forall_mem_append.2 ⟨isBare_eq_false_of_mem_singleShard,
      fun word hword => (hslots word hword).isBare_eq_false⟩

/-- A value that is the divider, one that looks like a flag, an empty executable, a second divider
and a flag that is not known: in front there are two slots and the executable. -/
theorem Config.plan_vocabulary_dividers :
    let p : LaunchPlan :=
      ⟨["--shard_index=0", "--shard_count=1", "--output_dir=--", "--repeat=--workers", "", "--",
          "-w=3", "--", "--repeat"],
        ["--output_dir=--", "--repeat=--workers"], some "", ["-w=3", "--", "--repeat"],
        some "--", none⟩
    Config.plan { Config.empty with outputDir? := some " -- " }
      ["-r", "--workers", "-w=3", "--", "--", "", "--repeat"] = .ok p ∧
    p.launcherArgs.takeWhile (· ≠ divider)
      = ["--shard_index=0", "--shard_count=1", "--output_dir=--", "--repeat=--workers", ""] ∧
    (∀ word ∈ ["--output_dir=--", "--repeat=--workers"], TellsSlot word) ∧
    isBare "" = true := by
  intro p
  refine ⟨?hplan, ?_⟩
  · decide
  · obtain ⟨-, hfront, -, hslots, -, hexe⟩ := Config.plan_vocabulary ?hplan
    exact ⟨hfront, hslots, hexe "" rfl⟩

end LaunchLine
