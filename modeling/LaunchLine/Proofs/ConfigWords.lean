import LaunchLine.Proofs.FieldWords
import LaunchLine.Proofs.Loading
import LaunchLine.Proofs.Trimming
import LaunchLine.Proofs.Utf8

/-!
# Proofs/ConfigWords — a config is spelled in whole options

Each field of a config is a whole option in one word, whatever text the field holds, so the fields
never make a config unusable, nor do they reach into the extra arguments: what is wrong with a
config are its extra arguments, `Config.checkPresets_words`.  And the words of the fields are
**canonical**: the launcher is told them as they are, in the same order, `Config.plan_canonical`.
-/

namespace LaunchLine

/-! ## The word for a setting -/

/-- **The word for a setting.** -/
def Setting.word : Setting → String
  | .fill slot value? => slot.render value?
  | .keepArtifacts => Flag.storeTestArtifacts.long

/-- **The word for a complete setting is a whole option.** -/
theorem Setting.IsComplete.exists_segment {setting : Setting} (h : setting.IsComplete) :
    ∃ s : Segment, s.isOption = true ∧ s.words = [setting.word] := by
  obtain ⟨slot, value?⟩ | _ := setting
  · obtain ⟨s, hwords, -, hloose⟩ := Segment.exists_words_eq_render (h slot value? rfl)
    exact ⟨s, Segment.isOption_of_looseWords hloose, hwords⟩
  · exact ⟨.switch .storeTestArtifacts _ Flag.storeTestArtifacts.isNamed_long rfl, rfl, rfl⟩

/-- No slot is told in the word that asks for artifacts to be kept. -/
theorem Slot.render_ne_storeTestArtifacts (slot : Slot) (value? : Option String) :
    slot.render value? ≠ Flag.storeTestArtifacts.long := by
  intro h
  obtain _ | value := value?
  · have hnamed : slot.flag.isNamed Flag.storeTestArtifacts.long = true :=
      slot.long_flag.trans h ▸ slot.flag.isNamed_long
    have hflag := Flag.eq_of_isNamed hnamed Flag.storeTestArtifacts.isNamed_long
    have heffect := slot.effect_flag
    rw [hflag] at heffect
    cases heffect
  · refine Flag.equals_notMem_of_isNamed Flag.storeTestArtifacts.isNamed_long ?_
    rw [← h]
    simp [render, String.toList_append]

/-- **All words but the one that asks for artifacts** tell the slots that are filled. -/
theorem Setting.filter_map_word (settings : List Setting) :
    (settings.map word).filter (· ≠ Flag.storeTestArtifacts.long)
      = (settings.filterMap filling?).map fun e => e.1.render e.2 := by
  induction settings with
  | nil => rfl
  | cons setting settings ih =>
    obtain ⟨slot, value?⟩ | _ := setting
    · rw [List.map_cons, List.filter_cons_of_pos, ih]
      · rfl
      · exact decide_eq_true (slot.render_ne_storeTestArtifacts value?)
    · rw [List.map_cons, List.filter_cons_of_neg (by simp [word]), ih]
      rfl

namespace Config

/-! ## The words of the fields -/

theorem map_word_valueSetting (slot : Slot) (value? : Option String) :
    (valueSetting slot value?).map Setting.word = valueWord slot value? := by
  cases value? <;> rfl

theorem map_word_switchSetting (setting : Setting) (switch? : Option Bool) :
    (switchSetting setting switch?).map Setting.word = switchWord setting.word switch? := by
  rw [switchSetting, switchWord]
  split <;> rfl

/-- **The words of the fields are those for their settings.** -/
theorem map_word_fieldSettings (cfg : Config) :
    cfg.fieldSettings.map Setting.word = cfg.fieldWords := by
  simp only [fieldSettings, List.map_append, map_word_valueSetting, map_word_switchSetting]
  rfl

theorem isComplete_of_mem_fieldSettings {cfg : Config} :
    ∀ setting ∈ cfg.fieldSettings, setting.IsComplete := by
  obtain ⟨ss, -, -, hsettings⟩ := exists_spread_of_readPresets cfg.readPresets_fieldWords
  exact hsettings ▸ Segment.isComplete_of_mem_flatMap

/-- **Every word of a field is a whole option.** -/
theorem exists_segment_of_mem_fieldWords {cfg : Config} :
    ∀ word ∈ cfg.fieldWords, ∃ s : Segment, s.isOption = true ∧ s.words = [word] := by
  rw [← map_word_fieldSettings]
  intro word hword
  obtain ⟨setting, hsetting, rfl⟩ := List.mem_map.1 hword
  exact (isComplete_of_mem_fieldSettings setting hsetting).exists_segment

/-! ## What makes a config unusable -/

/-- **Only the extra words can be refused.** -/
theorem checkPresets_words_eq (cfg : Config) :
    checkPresets cfg.words = checkPresets cfg.extraWords := by
  rw [checkPresets_eq, readPresets_words, checkPresets_eq]
  cases readPresets cfg.extraWords <;> rfl

/-- **A config that a file holds**: the path tells a format, and the file is a text that holds the
config in this format. -/
def IsWrittenAt (cfg : Config) (path : Path) (files : FileSystem) : Prop :=
  ∃ format text, ConfigFormat.ofPath? path = some format ∧
    files.readFile path = .ok (Utf8.encode text) ∧ format.config? text = some cfg

/-- A config that a file holds is loaded, unless its extra words are refused. -/
theorem IsWrittenAt.heldAt_eq {cfg : Config} {path : Path} {files : FileSystem}
    (h : cfg.IsWrittenAt path files) :
    heldAt path files = match checkPresets cfg.extraWords with
      | .error e => .error (.unusable path (.extraArgs e))
      | .ok () => .ok cfg := by
  obtain ⟨format, text, hformat, hread, hcfg⟩ := h
  rw [heldAt, run_loadFrom, hformat, hread]
  simp only [ofContent, Utf8.decode?_encode, ofText, hcfg, checkPresets_words_eq]
  cases checkPresets cfg.extraWords <;> rfl

theorem exists_config_of_ofText {format : ConfigFormat} {text : String} {e : ArgumentError}
    (h : ofText format text = .error (.extraArgs e)) :
    ∃ cfg, format.config? text = some cfg := by
  rw [ofText] at h
  split at h
  · cases h
  · next cfg hcfg => exact ⟨cfg, hcfg⟩

theorem exists_text_of_ofContent {path p : Path} {format : ConfigFormat} {content : Bytes}
    {e : ArgumentError} (h : ofContent path format content = .error (.unusable p (.extraArgs e))) :
    ∃ text, Utf8.encode text = content ∧ ofText format text = .error (.extraArgs e) := by
  rw [ofContent] at h
  split at h
  · cases h
  · next text htext =>
    refine ⟨text, Utf8.decode?_eq_some_iff.1 htext, ?_⟩
    split at h
    · next fault hfault =>
      cases h
      exact hfault
    · cases h

theorem exists_isWrittenAt_of_heldAt {path p : Path} {files : FileSystem} {e : ArgumentError}
    (h : heldAt path files = .error (.unusable p (.extraArgs e))) :
    ∃ cfg : Config, cfg.IsWrittenAt path files := by
  rw [heldAt, run_loadFrom] at h
  split at h
  · cases h
  · next format hformat =>
    split at h
    · cases h
    · next content hread =>
      obtain ⟨text, rfl, htext⟩ := exists_text_of_ofContent h
      obtain ⟨cfg, hcfg⟩ := exists_config_of_ofText htext
      exact ⟨cfg, format, text, hformat, hread, hcfg⟩

/-- **Only the extra arguments make a config invalid.**  The words of a config pass the check, or
fail it, just as its extra arguments do by themselves, and each field is a whole option, which takes
none of them for its value.  So when a config that a file holds is not loaded on account of its
extra arguments, these are refused by themselves, for the reason that is reported. -/
theorem checkPresets_words :
    (∀ cfg : Config, checkPresets cfg.words = checkPresets cfg.extraWords) ∧
    (∀ cfg : Config, ∀ word ∈ cfg.fieldWords,
      ∃ s : Segment, s.isOption = true ∧ s.words = [word]) ∧
    ∀ (path p : Path) (files : FileSystem) (e : ArgumentError),
      heldAt path files = .error (.unusable p (.extraArgs e)) ↔
        p = path ∧ ∃ cfg : Config, cfg.IsWrittenAt path files ∧
          checkPresets cfg.extraWords = .error e := by
  refine ⟨checkPresets_words_eq, fun cfg => exists_segment_of_mem_fieldWords,
    fun path p files e => ⟨fun h => ?_, ?_⟩⟩
  · obtain ⟨cfg, hwritten⟩ := exists_isWrittenAt_of_heldAt h
    rw [hwritten.heldAt_eq] at h
    split at h
    · next e' hcheck =>
      cases h
      exact ⟨rfl, cfg, hwritten, hcheck⟩
    · cases h
  · rintro ⟨rfl, cfg, hwritten, hcheck⟩
    rw [hwritten.heldAt_eq, hcheck]

/-- A text that looks like options stays in its field, and the first extra argument is read as it
stands. -/
example : checkPresets (words { empty with
      testFilter? := some " --repeat", extraArgs? := some ["3", "--repeat"] })
    = .error (.notASetting "3") := by
  decide

/-! ## The words of the fields are canonical -/

theorem keys_valueSetting (slot : Slot) (value? : Option String) :
    (((valueSetting slot value?).filterMap Setting.filling?).map Prod.fst).Sublist [slot] := by
  obtain _ | value := value?
  · exact List.nil_sublist _
  · exact List.Sublist.refl _

theorem switchSetting_sublist (setting : Setting) (switch? : Option Bool) :
    (switchSetting setting switch?).Sublist [setting] := by
  rw [switchSetting]
  split
  · exact List.Sublist.refl _
  · exact List.nil_sublist _

theorem keys_switchSetting (setting : Setting) (switch? : Option Bool) :
    (((switchSetting setting switch?).filterMap Setting.filling?).map Prod.fst).Sublist
      (([setting].filterMap Setting.filling?).map Prod.fst) :=
  ((switchSetting_sublist setting switch?).filterMap _).map _

/-- **No two fields fill the same slot.** -/
theorem nodup_keys_fieldSettings (cfg : Config) :
    ((cfg.fieldSettings.filterMap Setting.filling?).map Prod.fst).Nodup := by
  have hslots : ((cfg.fieldSettings.filterMap Setting.filling?).map Prod.fst).Sublist
      ([Slot.timeout] ++ [Slot.outputDir] ++ [] ++ [Slot.repeatCount] ++ [Slot.workers] ++
        [Slot.retryFailed] ++ [Slot.testFilter] ++ [Slot.runDisabledTests]) := by
    simp only [fieldSettings, List.filterMap_append, List.map_append]
    refine .append (.append (.append (.append (.append (.append (.append ?timeout ?outputDir) ?keep)
      ?repeatCount) ?workers) ?retryFailed) ?testFilter) ?run
    case keep => exact keys_switchSetting .keepArtifacts _
    case run => exact keys_switchSetting (.fill .runDisabledTests none) _
    all_goals exact keys_valueSetting _ _
  exact hslots.nodup (by decide)

/-- The slots of the fields are filled as the fields say. -/
theorem entries_fieldSettings (cfg : Config) :
    (Slots.ofSettings cfg.fieldSettings).entries
      = cfg.fieldSettings.filterMap Setting.filling? := by
  rw [Slots.entries_ofSettings, Entries.putAll_of_nodup cfg.nodup_keys_fieldSettings]

theorem fill_mem_valueSetting_iff {slot other : Slot} {value : String} {value? : Option String} :
    Setting.fill slot (some value) ∈ valueSetting other value? ↔
      slot = other ∧ value? = some value := by
  cases value? <;> simp [valueSetting, eq_comm]

theorem fill_some_notMem_switchSetting {slot : Slot} {value : String} {setting : Setting}
    (h : Setting.fill slot (some value) ≠ setting) (switch? : Option Bool) :
    Setting.fill slot (some value) ∉ switchSetting setting switch? := by
  rw [switchSetting]
  split <;> simp [h]

/-- The output directory is filled by its own field only. -/
theorem fill_outputDir_mem_fieldSettings_iff {cfg : Config} {dir : String} :
    Setting.fill .outputDir (some dir) ∈ cfg.fieldSettings ↔
      cfg.outputDir?.bind Text.trimmed? = some dir := by
  simp [fieldSettings, fill_mem_valueSetting_iff, fill_some_notMem_switchSetting]

/-- **The output directory is the text of its field**, trimmed, unless nothing is left of it. -/
theorem value?_outputDir_fieldSettings_eq_some_iff {cfg : Config} {dir : String} :
    (Slots.ofSettings cfg.fieldSettings).value? .outputDir = some dir ↔
      dir ≠ "" ∧ ∃ text, cfg.outputDir? = some text ∧ Text.IsTrimmed dir text := by
  rw [Slots.value?_eq_some_iff, entries_fieldSettings, Setting.mem_filterMap_filling?,
    fill_outputDir_mem_fieldSettings_iff, Option.bind_eq_some_iff]
  simp only [Text.trimmed?_eq_some_iff, and_left_comm, exists_and_left]

/-- **The words of the fields are canonical.**  Without extra arguments, a config plans the empty
command line: the launcher is told the config's words, in their order and as they are, but for the
one that asks for artifacts to be kept.  There is no executable, nothing is passed on, and the
output directory is the text of its field without the blanks around it, if anything is left. -/
theorem plan_canonical {cfg : Config} (h : cfg.extraArgs? = none ∨ cfg.extraArgs? = some []) :
    ∃ p : LaunchPlan, cfg.plan [] = .ok p ∧
      p.slotArgs = cfg.words.filter (· ≠ Flag.storeTestArtifacts.long) ∧
      p.executable? = none ∧ p.passedOn = [] ∧
      ∀ dir, p.outputDir? = some dir ↔
        dir ≠ "" ∧ ∃ text, cfg.outputDir? = some text ∧ Text.IsTrimmed dir text := by
  have hextra : cfg.extraWords = [] := by
    rcases h with h | h <;> rw [extraWords, h] <;> rfl
  have hwords : cfg.words = cfg.fieldWords := by rw [words, hextra, List.append_nil]
  have hread : readPresets cfg.words = .ok cfg.fieldSettings := by
    rw [hwords, readPresets_fieldWords]
  refine ⟨.ofReading ⟨cfg.fieldSettings, []⟩, ?_, ?_, rfl, rfl, fun dir => ?_⟩
  · rw [Config.plan, planWith_of_readPresets hread, readArguments, Except.map, List.append_nil]
  · rw [LaunchPlan.slotArgs_ofReading, Slots.render, entries_fieldSettings, hwords,
      ← map_word_fieldSettings, Setting.filter_map_word]
  · rw [LaunchPlan.outputDir?_ofReading]
    exact value?_outputDir_fieldSettings_eq_some_iff

/-- Texts that look like other words of the config, blanks around one of them, and an equals sign:
all are told as they are. -/
theorem plan_canonical_texts :
    let cfg : Config := { empty with
      outputDir? := some "\u3000 --store-test-artifacts\n", storeTestArtifacts? := some true
      workers? := some 0, testFilter? := some "--workers=1 -- ", extraArgs? := some [] }
    cfg.words = ["--output_dir=--store-test-artifacts", "--store-test-artifacts", "--workers=0",
      "--gtest_filter=--workers=1 --"] ∧
    ∃ p : LaunchPlan, cfg.plan [] = .ok p ∧
      p.slotArgs = ["--output_dir=--store-test-artifacts", "--workers=0",
        "--gtest_filter=--workers=1 --"] ∧
      p.outputDir? = some "--store-test-artifacts" := by
  intro cfg
  have hnone : cfg.extraArgs? = none ∨ cfg.extraArgs? = some [] := .inr rfl
  obtain ⟨p, hplan, hslots, -, -, hdir⟩ := plan_canonical hnone
  refine ⟨?hwords, p, hplan, ?_, ?_⟩
  · decide
  · rw [hslots]
    decide
  · exact (hdir _).2 ⟨by decide, _, rfl, Text.trim_eq_iff.1 (by decide)⟩

end Config

end LaunchLine
