import LaunchLine.Proofs.Accepted
import LaunchLine.Proofs.Rewrapping

/-!
# Proofs/FieldWords — the words that a config's fields stand for set what the fields say

Presets that are accepted can be followed by others, which are read as if they stood alone
(`readPresets_append`).  Each field of a config is a word of its own or none, so the words of all
fields are read back as the settings that the fields ask for, `Config.readPresets_fieldWords`.
-/

namespace LaunchLine

/-- **Accepted presets do not reach into those behind them.** -/
theorem readPresets_append {words : List String} {settings : List Setting}
    (h : readPresets words = .ok settings) (rest : List String) :
    readPresets (words ++ rest) = (readPresets rest).map (settings ++ ·) := by
  obtain ⟨ss, rfl, hoption, rfl⟩ := exists_spread_of_readPresets h
  exact readPresets_spread_append hoption rest

theorem readPresets_append_eq_ok {words words' : List String} {settings settings' : List Setting}
    (h : readPresets words = .ok settings) (h' : readPresets words' = .ok settings') :
    readPresets (words ++ words') = .ok (settings ++ settings') := by
  rw [readPresets_append h, h']
  rfl

theorem Segment.isOption_of_looseWords {s : Segment} (h : s.looseWords = []) :
    s.isOption = true := by
  cases s with
  | loose => cases h
  | switch | inline | split => rfl

/-- A filled slot is read back, as it is told. -/
theorem readPresets_render {slot : Slot} {value? : Option String}
    (h : value?.isSome = slot.takesValue) :
    readPresets [slot.render value?] = .ok [.fill slot value?] := by
  obtain ⟨s, hwords, hsettings, hloose⟩ := Segment.exists_words_eq_render h
  have hread := readPresets_words_append (Segment.isOption_of_looseWords hloose) []
  rwa [List.append_nil, hwords, hsettings] at hread

namespace Config

/-- What a field with a text sets. -/
def valueSetting (slot : Slot) (value? : Option String) : List Setting :=
  (value?.map fun value => .fill slot (some value)).toList

/-- What a switch sets. -/
def switchSetting (setting : Setting) (switch? : Option Bool) : List Setting :=
  if switch? = some true then [setting] else []

theorem readPresets_valueWord {slot : Slot} (htakes : slot.takesValue = true)
    (value? : Option String) :
    readPresets (valueWord slot value?) = .ok (valueSetting slot value?) := by
  cases value? with
  | none => rfl
  | some value => exact readPresets_render htakes.symm

theorem readPresets_switchWord {word : String} {setting : Setting}
    (h : readPresets [word] = .ok [setting]) (switch? : Option Bool) :
    readPresets (switchWord word switch?) = .ok (switchSetting setting switch?) := by
  rw [switchWord, switchSetting]
  split
  · exact h
  · rfl

/-- **What the fields of a config set**, `extraArgs?` apart. -/
def fieldSettings (cfg : Config) : List Setting :=
  valueSetting .timeout (cfg.timeout?.map Shortest.render) ++
  valueSetting .outputDir (cfg.outputDir?.bind Text.trimmed?) ++
  switchSetting .keepArtifacts cfg.storeTestArtifacts? ++
  valueSetting .repeatCount (cfg.repeatCount?.map fun n => n.toNat.repr) ++
  valueSetting .workers (cfg.workers?.map fun n => n.toNat.repr) ++
  valueSetting .retryFailed (cfg.retryFailed?.map fun n => n.toNat.repr) ++
  valueSetting .testFilter (cfg.testFilter?.bind Text.trimmed?) ++
  switchSetting (.fill .runDisabledTests none) cfg.runDisabledTests?

/-- **The words of the fields are read back as what the fields set.** -/
theorem readPresets_fieldWords (cfg : Config) :
    readPresets cfg.fieldWords = .ok cfg.fieldSettings := by
  have hkeep : readPresets [Flag.storeTestArtifacts.long] = .ok [.keepArtifacts] := rfl
  have hrun : readPresets [Slot.render .runDisabledTests none]
      = .ok [.fill .runDisabledTests none] := readPresets_render rfl
  refine readPresets_append_eq_ok (readPresets_append_eq_ok (readPresets_append_eq_ok
    (readPresets_append_eq_ok (readPresets_append_eq_ok (readPresets_append_eq_ok
      (readPresets_append_eq_ok ?timeout ?outputDir) ?keep) ?repeatCount) ?workers) ?retryFailed)
    ?testFilter) ?run
  case keep => exact readPresets_switchWord hkeep _
  case run => exact readPresets_switchWord hrun _
  all_goals exact readPresets_valueWord rfl _

/-- **The words of a config** are accepted exactly if the extra ones are. -/
theorem readPresets_words (cfg : Config) :
    readPresets cfg.words = (readPresets cfg.extraWords).map (cfg.fieldSettings ++ ·) :=
  readPresets_append cfg.readPresets_fieldWords cfg.extraWords

theorem keepArtifacts_mem_fieldSettings {cfg : Config} (h : cfg.storeTestArtifacts? = some true) :
    Setting.keepArtifacts ∈ cfg.fieldSettings := by
  simp [fieldSettings, switchSetting, h]

theorem runDisabledTests_mem_fieldSettings {cfg : Config}
    (h : cfg.runDisabledTests? = some true) :
    Setting.fill .runDisabledTests none ∈ cfg.fieldSettings := by
  simp [fieldSettings, switchSetting, h]

/-- **A plan under a config** is made of settings, among them all that the fields set. -/
theorem exists_settings_of_plan {cfg : Config} {arguments : List String} {p : LaunchPlan}
    (h : cfg.plan arguments = .ok p) :
    ∃ r : Reading, (∀ st ∈ r.settings, st.IsComplete) ∧ cfg.fieldSettings ⊆ r.settings ∧
      p = .ofReading r := by
  obtain ⟨ss, l, hspread, hoption, -, rfl⟩ := exists_segments_of_planWith h
  refine ⟨_, Segment.isComplete_of_mem_flatMap, ?_, rfl⟩
  have hread := cfg.readPresets_words
  rw [← hspread, readPresets_spread hoption] at hread
  cases hextra : readPresets cfg.extraWords with
  | error e =>
    rw [hextra] at hread
    cases hread
  | ok extra =>
    rw [hextra] at hread
    rw [List.flatMap_append, Except.ok.inj hread, List.append_assoc]
    exact List.subset_append_left _ _

end Config

end LaunchLine
