import LaunchLine.Config.Load
import LaunchLine.Proofs.Presets

/-!
# Proofs/Accepted — accepted presets in front of a command line

Accepted presets are whole segments, and none of them is loose.  So it makes no difference that they
are read on their own, `Config.plan_eq_plan_append`; and they leave to the command line what decides
whether there is a plan and which test it starts, `Config.sameTest_plan`.  Every config that was
loaded from a file is accepted.
-/

namespace LaunchLine

theorem Segment.flatMap_looseWords_of_isOption {ss : List Segment}
    (h : ∀ s ∈ ss, s.isOption = true) : ss.flatMap looseWords = [] := by
  refine List.flatMap_eq_nil_iff.2 fun s hs => ?_
  cases s with
  | loose => exact absurd (h _ hs) Bool.false_ne_true
  | switch | inline | split => rfl

/-- **Accepted presets end where a segment ends**: what is read behind them is what would be read
without them. -/
theorem readArguments_append_of_readPresets {presets : List String} {settings : List Setting}
    (h : readPresets presets = .ok settings) (arguments : List String) :
    readArguments (presets ++ arguments) = (readArguments arguments).map fun r =>
      ⟨settings ++ r.settings, r.loose⟩ := by
  obtain ⟨ss, rfl, hoption, rfl⟩ := exists_spread_of_readPresets h
  rw [readArguments_spread_append, Segment.flatMap_looseWords_of_isOption hoption]
  rfl

theorem planWith_of_readPresets {presets : List String} {settings : List Setting}
    (h : readPresets presets = .ok settings) (arguments : List String) :
    planWith presets arguments = (readArguments arguments).map fun r =>
      .ofReading ⟨settings ++ r.settings, r.loose⟩ := by
  rw [planWith_eq, h]

theorem planWith_eq_plan_append {presets : List String} {settings : List Setting}
    (h : readPresets presets = .ok settings) (arguments : List String) :
    planWith presets arguments = plan (presets ++ arguments) := by
  rw [planWith_of_readPresets h, plan_eq, readArguments_append_of_readPresets h]
  cases readArguments arguments <;> rfl

theorem checkPresets_eq_ok_iff {presets : List String} :
    checkPresets presets = .ok () ↔ ∃ settings, readPresets presets = .ok settings := by
  rw [checkPresets_eq]
  cases readPresets presets with
  | error e => exact ⟨fun h => (nomatch h), fun ⟨_, h⟩ => (nomatch h)⟩
  | ok settings => exact ⟨fun _ => ⟨settings, rfl⟩, fun _ => rfl⟩

/-- **The same test, or the same refusal**: two outcomes that differ at most in what the launcher
itself is told. -/
inductive SameTest : (left right : Except ArgumentError LaunchPlan) → Prop
  | refused (e : ArgumentError) : SameTest (.error e) (.error e)
  | planned {p q : LaunchPlan} (executable : p.executable? = q.executable?)
      (passedOn : p.passedOn = q.passedOn) : SameTest (.ok p) (.ok q)

namespace Config

/-- **Two readings are one.**  A config whose words cannot serve as presets is refused with every
command line, for the reason that the check gives; any other config plans a command line as if its
words were written in front. -/
theorem plan_eq_plan_append (cfg : Config) (arguments : List String) :
    cfg.plan arguments =
      match checkPresets cfg.words with
      | .error e => .error e
      | .ok () => LaunchLine.plan (cfg.words ++ arguments) := by
  cases h : readPresets cfg.words with
  | error e =>
    have hcheck : checkPresets cfg.words = .error e := by
      rw [checkPresets_eq, h]
      rfl
    rw [Config.plan, planWith_eq, h, hcheck]
  | ok settings =>
    rw [checkPresets_eq_ok_iff.2 ⟨settings, h⟩]
    exact planWith_eq_plan_append h arguments

/-- A flag at the end of the presets waits for a value, but takes none from the command line. -/
example : Config.plan { empty with extraArgs? := some ["-r"] } ["3"]
    = .error (.missingValue "-r") := by
  decide

/-! ## What was loaded is accepted -/

/-- A config whose words can serve as presets. -/
def IsAccepted (cfg : Config) : Prop :=
  checkPresets cfg.words = .ok ()

theorem isAccepted_empty : empty.IsAccepted := rfl

theorem isAccepted_of_ofText {format : ConfigFormat} {text : String} {cfg : Config}
    (h : ofText format text = .ok cfg) : cfg.IsAccepted := by
  rw [ofText] at h
  split at h
  · cases h
  · split at h
    · cases h
    · next hcheck =>
      obtain rfl := Except.ok.inj h
      exact hcheck

theorem isAccepted_of_ofContent {path : Path} {format : ConfigFormat} {content : Bytes}
    {cfg : Config} (h : ofContent path format content = .ok cfg) : cfg.IsAccepted := by
  rw [ofContent] at h
  split at h
  · cases h
  · split at h
    · cases h
    · next htext =>
      obtain rfl := Except.ok.inj h
      exact isAccepted_of_ofText htext

/-- Loading a config reads its file and leaves all files as they are. -/
theorem run_loadFrom (path : Path) (files : FileSystem) :
    (loadFrom (m := StateM FileSystem) path).run files =
      (match ConfigFormat.ofPath? path with
        | none => .ok empty
        | some format =>
          match files.readFile path with
          | .error e => .error (.unreadable path e)
          | .ok content => ofContent path format content, files) := by
  rw [loadFrom]
  cases ConfigFormat.ofPath? path with
  | none => rfl
  | some format =>
    change (match files.readFile path with
      | .error e => pure (.error (.unreadable path e))
      | .ok content => pure (ofContent path format content) : StateM FileSystem _).run files = _
    cases files.readFile path <;> rfl

/-- **A config that was loaded is accepted**, whatever its file holds. -/
theorem isAccepted_of_loadFrom {path : Path} {files : FileSystem} {cfg : Config}
    (h : ((loadFrom (m := StateM FileSystem) path).run files).1 = .ok cfg) : cfg.IsAccepted := by
  rw [run_loadFrom] at h
  split at h
  · obtain rfl : empty = cfg := Except.ok.inj h
    exact isAccepted_empty
  · split at h
    · cases h
    · exact isAccepted_of_ofContent h

/-- **A config neither breaks a command line nor takes it over.**  If it is accepted, as is every
config that was loaded from a file, then a command line has a plan with it exactly if it has one
without it, the errors are the same, and so are the executable and the words passed on to it. -/
theorem sameTest_plan {cfg : Config}
    (h : cfg.IsAccepted ∨ ∃ (path : Path) (files : FileSystem),
      ((loadFrom (m := StateM FileSystem) path).run files).1 = .ok cfg)
    (arguments : List String) : SameTest (cfg.plan arguments) (LaunchLine.plan arguments) := by
  have haccepted : cfg.IsAccepted := by
    rcases h with h | ⟨path, files, hload⟩
    · exact h
    · exact isAccepted_of_loadFrom hload
  obtain ⟨settings, hread⟩ := checkPresets_eq_ok_iff.1 haccepted
  rw [Config.plan, planWith_of_readPresets hread, plan_eq]
  cases readArguments arguments with
  | error e => exact .refused e
  | ok r => exact .planned rfl rfl

/-- A value among the presets looks like an option and another like a program; neither is taken for
the executable, and the last of them takes no word of the command line. -/
theorem sameTest_plan_loaded :
    ((loadFrom (m := StateM FileSystem) (.ofString "/c.json")).run
      ⟨.directory [(Utf8.encode "c.json", .file (Utf8.encode
        "\x7b\"extraArgs\": [\"-r\", \"--workers\", \"-d\", \"prog\"]\x7d"))], []⟩).1
      = .ok { empty with extraArgs? := some ["-r", "--workers", "-d", "prog"] } ∧
    SameTest
      (Config.plan { empty with extraArgs? := some ["-r", "--workers", "-d", "prog"] }
        ["test", "-w", "8", "--", "-d"])
      (LaunchLine.plan ["test", "-w", "8", "--", "-d"]) := by
  refine ⟨?hload, ?_⟩
  · decide +kernel
  · have hload := ?hload
    exact sameTest_plan (.inr ⟨_, _, hload⟩) _

end Config

end LaunchLine
