import LaunchLine.CommandLine.LaunchPlan
import LaunchLine.Proofs.Fallible

/-!
# Proofs/Reading — what a scan has gathered, from the words alone

A command line can be taken apart without gathering anything, into its settings and its loose words,
each in order: `readArguments`, and `readPresets` for a list of presets.  These two lists tell what
a scan holds (`Scan.ofReading`).  The output directory beside the slots is the one in its slot, the
executable is the first bare loose word, and what is passed on is the other ones.  Every step of a
scan keeps this, so a plan is made of readings: `plan_eq`, `planWith_eq`.
-/

namespace LaunchLine

/-- A command line taken apart: its settings and its loose words, each in order. -/
structure Reading where
  settings : List Setting
  loose : List String
  deriving DecidableEq, Repr

namespace Reading

/-- The reading with one more setting in front. -/
def consSetting (setting : Setting) (r : Reading) : Reading :=
  ⟨setting :: r.settings, r.loose⟩

/-- The reading with one more loose word in front. -/
def consLoose (word : String) (r : Reading) : Reading :=
  ⟨r.settings, word :: r.loose⟩

end Reading

/-- Take a command line apart. -/
def readArguments : List String → Except ArgumentError Reading
  | [] => .ok ⟨[], []⟩
  | word :: rest =>
    if word = divider then .ok ⟨[], rest⟩
    else
      match Token.ofString word with
      | .loose => (readArguments rest).map (Reading.consLoose word)
      | .setting s => (readArguments rest).map (Reading.consSetting s)
      | .opens flag =>
        match rest with
        | [] => .error (.missingValue word)
        | value :: rest =>
          if value = divider then .error (.missingValue word)
          else (readArguments rest).map (Reading.consSetting (flag.setting (some value)))

/-- Read a list that holds settings only. -/
def readPresets : List String → Except ArgumentError (List Setting)
  | [] => .ok []
  | word :: rest =>
    match Token.ofString word with
    | .loose => .error (.notASetting word)
    | .setting s => (readPresets rest).map (s :: ·)
    | .opens flag =>
      match rest with
      | [] => .error (.missingValue word)
      | value :: rest =>
        if value = divider then .error (.missingValue word)
        else (readPresets rest).map (flag.setting (some value) :: ·)

/-! ## What a scan holds -/

namespace Scan

/-- **What a scan holds** when it has taken the settings and the loose words of a reading. -/
def ofReading (r : Reading) : Scan where
  slots := Slots.ofSettings r.settings
  outputDir? := (Slots.ofSettings r.settings).value? .outputDir
  keepsArtifacts := decide (Setting.keepArtifacts ∈ r.settings)
  executable? := r.loose.find? isBare
  passedOn := r.loose.eraseP isBare

@[simp]
theorem slots_ofReading (r : Reading) : (ofReading r).slots = Slots.ofSettings r.settings := rfl

theorem take_fill (scan : Scan) (slot : Slot) (value? : Option String) :
    scan.take (.fill slot value?) = { scan with
      slots := scan.slots.put slot value?
      outputDir? := if slot = .outputDir then value? else scan.outputDir? } := by
  cases slot <;> rfl

/-- **A setting that is taken** comes last in the reading. -/
theorem take_ofReading (r : Reading) (s : Setting) :
    (ofReading r).take s = ofReading ⟨r.settings ++ [s], r.loose⟩ := by
  have hslots : Slots.ofSettings (r.settings ++ [s]) = (Slots.ofSettings r.settings).apply s := by
    rw [Slots.ofSettings, List.foldl_append]
    rfl
  cases s with
  | keepArtifacts => simp [take, ofReading, hslots, Slots.apply]
  | fill slot value? =>
    simp [take_fill, ofReading, hslots, Slots.apply, Slots.value?_put, eq_comm]

/-- **A loose word that is taken** comes last in the reading. -/
theorem takeLoose_ofReading (r : Reading) (word : String) :
    (ofReading r).takeLoose word = ofReading ⟨r.settings, r.loose ++ [word]⟩ := by
  cases hfound : r.loose.find? isBare with
  | some exe =>
    have hmem : exe ∈ r.loose := List.mem_of_find?_eq_some hfound
    have hbare : isBare exe = true := List.find?_some hfound
    simp [takeLoose, ofReading, hfound, List.find?_append, List.eraseP_append_left hbare _ hmem]
  | none =>
    have hnone : ∀ w ∈ r.loose, ¬ isBare w = true := List.find?_eq_none.1 hfound
    by_cases hbare : isBare word = true
    · simp [takeLoose, ofReading, hfound, hbare, List.find?_append,
        List.eraseP_append_right _ hnone, List.eraseP_of_forall_not hnone]
    · simp [takeLoose, ofReading, hfound, hbare, List.find?_append,
        List.eraseP_append_right _ hnone, List.eraseP_of_forall_not hnone]

theorem foldl_takeLoose_ofReading (r : Reading) (words : List String) :
    words.foldl takeLoose (ofReading r) = ofReading ⟨r.settings, r.loose ++ words⟩ := by
  induction words generalizing r with
  | nil => rw [List.foldl_nil, List.append_nil]
  | cons word words ih =>
    rw [List.foldl_cons, takeLoose_ofReading, ih, List.append_assoc, List.singleton_append]

/-! ## A whole scan -/

/-- **A scan reads on from what it holds**: it ends with the reading that it began with and that of
the words, one behind the other. -/
theorem takeArguments_ofReading (r : Reading) (words : List String) :
    (ofReading r).takeArguments 0 words = (readArguments words).map fun r' =>
      ofReading ⟨r.settings ++ r'.settings, r.loose ++ r'.loose⟩ := by
  fun_induction readArguments words generalizing r with
  | case1 => simp [takeArguments, Except.map]
  | case2 rest => simp [takeArguments, Except.map, foldl_takeLoose_ofReading]
  | case3 word rest hinner hloose ih =>
    rw [takeArguments, if_neg hinner, takeWord, hloose]
    simp only [takeLoose_ofReading, ih]
    cases readArguments rest <;> simp [Except.map, Reading.consLoose]
  | case4 word rest hinner s hsetting ih =>
    rw [takeArguments, if_neg hinner, takeWord, hsetting]
    simp only [take_ofReading, ih]
    cases readArguments rest <;> simp [Except.map, Reading.consSetting]
  | case5 word hinner flag hopens =>
    rw [takeArguments, if_neg hinner, takeWord, hopens]
    rfl
  | case6 word hinner flag hopens rest =>
    rw [takeArguments, if_neg hinner, takeWord, hopens]
    rfl
  | case7 word hinner flag hopens value rest hvalue ih =>
    rw [takeArguments, if_neg hinner, takeWord, hopens]
    simp only [takeFlag, List.head?_cons, if_neg hvalue, take_ofReading, takeArguments, ih]
    cases readArguments rest <;> simp [Except.map, Reading.consSetting]

/-- **Presets are read on from what a scan holds**, and none of them is loose. -/
theorem takePresets_ofReading (r : Reading) (words : List String) :
    (ofReading r).takePresets 0 words = (readPresets words).map fun settings =>
      ofReading ⟨r.settings ++ settings, r.loose⟩ := by
  fun_induction readPresets words generalizing r with
  | case1 => simp [takePresets, Except.map]
  | case2 word rest hloose =>
    rw [takePresets, takePreset, hloose]
    rfl
  | case3 word rest s hsetting ih =>
    rw [takePresets, takePreset, hsetting]
    simp only [take_ofReading, ih]
    cases readPresets rest <;> simp [Except.map]
  | case4 word flag hopens =>
    rw [takePresets, takePreset, hopens]
    rfl
  | case5 word flag hopens rest =>
    rw [takePresets, takePreset, hopens]
    rfl
  | case6 word flag hopens value rest hvalue ih =>
    rw [takePresets, takePreset, hopens]
    simp only [takeFlag, List.head?_cons, if_neg hvalue, take_ofReading, takePresets, ih]
    cases readPresets rest <;> simp [Except.map]

/-- **What a scan of a command line holds** is what its reading tells. -/
theorem takeArguments_empty (words : List String) :
    empty.takeArguments 0 words = (readArguments words).map ofReading :=
  takeArguments_ofReading ⟨[], []⟩ words

/-- **What a scan of presets holds** is what their settings tell. -/
theorem takePresets_empty (words : List String) :
    empty.takePresets 0 words = (readPresets words).map fun settings => ofReading ⟨settings, []⟩ :=
  takePresets_ofReading ⟨[], []⟩ words

/-- **What a scan holds that goes through**, presets first, is what two readings tell. -/
theorem exists_readings_of_takeArguments {presets arguments : List String} {scan scan' : Scan}
    (h : empty.takePresets 0 presets = .ok scan) (h' : scan.takeArguments 0 arguments = .ok scan') :
    ∃ settings r, readPresets presets = .ok settings ∧ readArguments arguments = .ok r ∧
      scan' = ofReading ⟨settings ++ r.settings, r.loose⟩ := by
  rw [takePresets_empty] at h
  obtain ⟨settings, hsettings, rfl⟩ := exists_of_map_eq_ok h
  rw [takeArguments_ofReading] at h'
  obtain ⟨r, hread, rfl⟩ := exists_of_map_eq_ok h'
  exact ⟨settings, r, hsettings, hread, rfl⟩

/-- **The two stores of the output directory are in step** when a scan is through. -/
theorem outputDir?_eq_value? {presets arguments : List String} {scan scan' : Scan}
    (h : empty.takePresets 0 presets = .ok scan) (h' : scan.takeArguments 0 arguments = .ok scan') :
    scan'.outputDir? = scan'.slots.value? .outputDir := by
  obtain ⟨settings, r, -, -, rfl⟩ := exists_readings_of_takeArguments h h'
  rfl

end Scan

/-! ## Plans are made of readings -/

/-- The plan of the settings and the loose words. -/
def LaunchPlan.ofReading (r : Reading) : LaunchPlan :=
  (Scan.ofReading r).finish

theorem LaunchPlan.artifactsDir?_ofReading (r : Reading) :
    (ofReading r).artifactsDir? = if Setting.keepArtifacts ∈ r.settings then
      (ofReading r).outputDir?.bind artifactsDirIn? else none := by
  simp [ofReading, Scan.finish, Scan.ofReading]

theorem checkPresets_eq (words : List String) :
    checkPresets words = (readPresets words).map fun _ => () := by
  rw [checkPresets, Scan.takePresets_empty]
  cases readPresets words <;> rfl

/-- **A plan is made of a reading** of the command line. -/
theorem plan_eq (arguments : List String) :
    plan arguments = (readArguments arguments).map LaunchPlan.ofReading := by
  rw [plan, Scan.takeArguments_empty]
  cases readArguments arguments <;> rfl

/-- **A plan with presets is made of two readings**: the settings of the presets come first. -/
theorem planWith_eq (presets arguments : List String) :
    planWith presets arguments =
      match readPresets presets with
      | .error e => .error e
      | .ok settings =>
        (readArguments arguments).map fun r => .ofReading ⟨settings ++ r.settings, r.loose⟩ := by
  rw [planWith, Scan.takePresets_empty]
  cases readPresets presets with
  | error e => rfl
  | ok settings =>
    change (do
      let scan ← (Scan.ofReading ⟨settings, []⟩).takeArguments 0 arguments
      return scan.finish) = (readArguments arguments).map _
    rw [Scan.takeArguments_ofReading]
    cases readArguments arguments <;> rfl

end LaunchLine
