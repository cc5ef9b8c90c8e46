import LaunchLine.Proofs.Diagnostics
import LaunchLine.Proofs.Lines
import LaunchLine.Proofs.PlanText
import LaunchLine.Proofs.Utf8

/-!
# Proofs/TraceTruth — a trace tells what happened

A run whose directory for traces can be used leaves a file there that is read as a JSON object.
What this tells of the arguments, of the config, of the plan and of the error is what the run was
given and what it printed (`run_tellsRun`): the plan is the one whose rendering was printed, the
error is the one in the last line of the reports.
-/

namespace LaunchLine

/-! ## The trace as an object -/

namespace Trace

/-- The plan that a trace tells, or null. -/
def resultJson (t : Trace) : Json.Value :=
  match t.outcome with
  | .ok p => p.toJson
  | .error _ => .null

/-- The error that a trace tells, or null. -/
def errorJson (t : Trace) : Json.Value :=
  match t.outcome with
  | .ok _ => .null
  | .error message => .string message

/-- The members of a trace. -/
def members (t : Trace) : List (String × Json.Value) :=
  [("schema_version", .ofNat formVersion),
    ("argv", .ofTexts t.arguments),
    ("config_path", .ofText? (t.configPath?.map Path.display)),
    ("written_at_unix_ms", .ofNat? t.clock.unixMillis?),
    ("elapsed_ms", .ofNat? t.clock.elapsedMillis?),
    ("result", t.resultJson),
    ("error", t.errorJson)]

@[simp] theorem lookup_argv (t : Trace) : t.members.lookup "argv" = some (.ofTexts t.arguments) :=
  rfl

@[simp] theorem lookup_configPath (t : Trace) :
    t.members.lookup "config_path" = some (.ofText? (t.configPath?.map Path.display)) :=
  rfl

@[simp] theorem lookup_result (t : Trace) : t.members.lookup "result" = some t.resultJson :=
  rfl

@[simp] theorem lookup_error (t : Trace) : t.members.lookup "error" = some t.errorJson :=
  rfl

/-- A plan is told as an object, which it is read back from. -/
theorem exists_parts {t : Trace} {p : LaunchPlan} (h : t.outcome = .ok p) :
    ∃ parts, t.members.lookup "result" = some (.object parts) ∧
      LaunchPlan.ofJson? (.object parts) = some p ∧ t.members.lookup "error" = some .null := by
  refine ⟨_, ?_, p.ofJson?_toJson, ?_⟩
  · rw [lookup_result, resultJson, h]
    rfl
  · rw [lookup_error, errorJson, h]

theorem toJson_eq (t : Trace) : t.toJson = .object t.members := by
  rw [toJson, members, resultJson, errorJson]
  cases t.outcome <;> rfl

end Trace

theorem Json.Value.isPlain_ofNat? (n? : Option Nat) : (ofNat? n?).IsPlain := by
  cases n? with
  | none => exact .null
  | some n => exact .ofNat n

namespace Trace

theorem isPlain_toJson (t : Trace) : t.toJson.IsPlain := by
  rw [toJson_eq]
  refine .object fun member hmember => ?_
  simp only [members, List.mem_cons, List.not_mem_nil, or_false] at hmember
  rcases hmember with rfl | rfl | rfl | rfl | rfl | rfl | rfl
  · exact .ofNat formVersion
  · exact Json.Value.isPlain_ofTexts t.arguments
  · exact Json.Value.isPlain_ofText? _
  · exact Json.Value.isPlain_ofNat? t.clock.unixMillis?
  · exact Json.Value.isPlain_ofNat? t.clock.elapsedMillis?
  · rw [resultJson]
    cases t.outcome with
    | ok p => exact p.isPlain_toJson
    | error message => exact .null
  · rw [errorJson]
    cases t.outcome with
    | ok p => exact .null
    | error message => exact .string message

/-- The text of a trace denotes its members. -/
theorem parse?_render (t : Trace) :
    Json.standard.parse? t.toJson.render = some (.object t.members) := by
  rw [t.isPlain_toJson.parse?_render, toJson_eq]

end Trace

/-- **A directory takes traces**: it is there or can be made, and the file of a trace can be written
in it. -/
def FileSystem.TakesTraces (files : FileSystem) (directory : Path) : Prop :=
  let made := (createDirectories directory).run files
  made.1 = .ok () ∧ ((writeFile (Trace.fileIn directory) []).run made.2).1 = .ok ()

/-- **A trace that is written is read.** -/
theorem Trace.readFile_of_writeIfAsked (t : Trace) {setting? : Option Bytes} {directory : Path}
    {files : FileSystem} (hdirectory : directoryOf? setting? = some directory)
    (htakes : files.TakesTraces directory) :
    ((t.writeIfAsked (m := StateM FileSystem) setting?).run files).2.readFile (fileIn directory)
      = .ok (Utf8.encode t.toJson.render) := by
  obtain ⟨hmade, hfree⟩ := htakes
  rw [t.run_writeIfAsked hdirectory]
  rcases hrun : (FileSystem.createDirectories directory).run files with ⟨result, made⟩
  rw [hrun] at hmade hfree
  obtain rfl : result = .ok () := hmade
  exact FileSystem.readFile_of_writeFile
    (Prod.ext ((FileSystem.fst_run_writeFile _ _ _ _).trans hfree) rfl)

/-! ## The config that is told -/

section Told

variable {env : Environment} {cwd : Path} {files : FileSystem} {path : Path}

theorem pathInEffect?_of_loaded {cfg : Config}
    (hpath : Config.pathAmong env.config? cwd files = some path)
    (hheld : Config.heldAt path files = .ok cfg) : pathInEffect? env cwd files = some path := by
  rw [pathInEffect?, Config.loaded, hpath]
  dsimp only
  rw [hheld]
  rfl

theorem pathInEffect?_of_ignored {e : ConfigError}
    (hpath : Config.pathAmong env.config? cwd files = some path)
    (hheld : Config.heldAt path files = .error e) : pathInEffect? env cwd files = none := by
  rw [pathInEffect?, Config.loaded, hpath]
  dsimp only
  rw [hheld]
  rfl

theorem pathInEffect?_of_missing (hpath : Config.pathAmong env.config? cwd files = none) :
    pathInEffect? env cwd files = none := by
  rw [pathInEffect?, Config.loaded, hpath]

end Told

/-! ## The last report -/

theorem endsLine_reportLine (text : String) : Text.EndsLine (reportLine text).toList := by
  rw [reportLine, String.toList_append]
  exact Text.endsLine_concat _

section Run

variable (env : Environment) (cwd : Path) (clock : Clock) (files : FileSystem)

/-- What is reported of the config consists of whole lines. -/
theorem endsLine_configReport : Text.EndsLine (configReport env cwd files).toList := by
  rw [configReport, String.toList_append]
  refine .append ?_ ?_
  · split
    · exact Or.inl rfl
    · exact endsLine_reportLine _
  · split
    · exact endsLine_reportLine _
    · exact Or.inl rfl

/-- With the config in effect only a flag without its value is an error. -/
theorem exists_flag_of_plan_inEffect {texts : List String} {e : ArgumentError}
    (h : (Config.inEffect env.config? cwd files).plan texts = .error e) :
    ∃ (flag : Flag) (name : String), flag.isNamed name = true ∧ e = .missingValue name := by
  obtain ⟨settings, hplan⟩ := Config.exists_plan_of_isAccepted
    (Config.isAccepted_inEffect env.config? cwd files)
  rw [hplan] at h
  rcases exists_layout_or_dangling texts with ⟨l, rfl⟩ | ⟨d, rfl⟩
  · rw [readArguments_layout] at h
    cases h
  · rw [readArguments_dangling] at h
    exact ⟨d.flag, d.name, d.named, (Except.error.inj h).symm⟩

/-- The message of a flag without its value is one line. -/
theorem message_missingValue_of_isNamed {flag : Flag} {name : String}
    (h : flag.isNamed name = true) :
    '\n' ∉ (ArgumentError.missingValue name).message.toList ∧
      (ArgumentError.missingValue name).message.toList.getLast? = some 'e' := by
  have hname : '\n' ∉ name.toList :=
    Flag.of_isNamed (p := fun name => '\n' ∉ name.toList) (by decide) (by decide) h
  have hlast : " expects a value".toList.getLast? = some 'e' := by decide
  have hmessage : (ArgumentError.missingValue name).message.toList
      = ("option ".toList ++ name.toList) ++ " expects a value".toList :=
    String.toList_append.trans (congrArg (· ++ " expects a value".toList) String.toList_append)
  rw [hmessage]
  constructor
  · refine List.not_mem_append (List.not_mem_append ?_ hname) ?_
    · decide
    · decide
  · rw [List.getLast?_append, hlast, Option.some_or]

/-- **The error is told in the last line** of the reports. -/
theorem getLast?_lines_error {texts : List String} {e : ArgumentError}
    (h : (Config.inEffect env.config? cwd files).plan texts = .error e) :
    (Text.lines (configReport env cwd files ++ reportLine ("error: " ++ e.message))).getLast?
      = some ("gtest-parallel-wrapper: error: " ++ e.message) := by
  obtain ⟨flag, name, hname, rfl⟩ := exists_flag_of_plan_inEffect env cwd files h
  obtain ⟨hfeed, hlast⟩ := message_missingValue_of_isNamed hname
  have hline : reportLine ("error: " ++ (ArgumentError.missingValue name).message)
      = "gtest-parallel-wrapper: error: " ++ (ArgumentError.missingValue name).message ++ "\n" := by
    rw [reportLine, ← String.append_assoc]
    rfl
  rw [hline]
  refine Text.getLast?_lines_append (endsLine_configReport env cwd files) ?_ ?_
  · rw [String.toList_append]
    exact List.not_mem_append (by decide) hfeed
  · rw [String.toList_append, List.getLast?_append, hlast, Option.some_or]
    decide

/-! ## What is told, and what happened -/

/-- **The members of a trace tell the truth** about a run with texts that had this outcome. -/
structure TellsRun (texts : List String) (outcome : Outcome)
    (members : List (String × Json.Value)) : Prop where
  /-- The arguments are those of the run. -/
  argv : members.lookup "argv" = some (.ofTexts texts)
  /-- The path of the config that was found and loaded. -/
  config_loaded : ∀ path cfg, Config.pathAmong env.config? cwd files = some path →
    Config.heldAt path files = .ok cfg → ∀ text, Utf8.encode text = path.bytes →
      members.lookup "config_path" = some (.string text)
  /-- A config that could not be loaded is left out. -/
  config_ignored : ∀ path e, Config.pathAmong env.config? cwd files = some path →
    Config.heldAt path files = .error e → members.lookup "config_path" = some .null
  /-- No config was found. -/
  config_missing : Config.pathAmong env.config? cwd files = none →
    members.lookup "config_path" = some .null
  /-- A plan was printed and no error is told, or an error was reported and no plan is told. -/
  outcome :
    (outcome.exitCode = 0 ∧ ∃ p parts,
      (Config.inEffect env.config? cwd files).plan texts = .ok p ∧
      outcome.stdout = printed env.outputForm p ∧
      members.lookup "result" = some (.object parts) ∧
      LaunchPlan.ofJson? (.object parts) = some p ∧
      members.lookup "error" = some .null) ∨
    (outcome.exitCode = 2 ∧ ∃ message,
      members.lookup "result" = some .null ∧
      members.lookup "error" = some (.string message) ∧
      (Text.lines outcome.stderr).getLast? = some ("gtest-parallel-wrapper: error: " ++ message))

/-- **The trace of a run with texts tells the truth.** -/
theorem tellsRun_traceOf (texts : List String) :
    TellsRun env cwd files texts
      ((runTexts (m := StateM FileSystem) env cwd clock texts).run files).1
      (traceOf env cwd clock files texts).members where
  argv := Trace.lookup_argv _
  config_loaded path cfg hpath hheld text htext := by
    have hdisplay : path.display = text :=
      Utf8.decodeLossy_of_decode? (Utf8.decode?_eq_some_iff.2 htext)
    rw [Trace.lookup_configPath, traceOf, pathInEffect?_of_loaded hpath hheld, Option.map_some,
      hdisplay, Json.Value.ofText?]
  config_ignored path e hpath hheld := by
    rw [Trace.lookup_configPath, traceOf, pathInEffect?_of_ignored hpath hheld, Option.map_none,
      Json.Value.ofText?]
  config_missing hpath := by
    rw [Trace.lookup_configPath, traceOf, pathInEffect?_of_missing hpath, Option.map_none,
      Json.Value.ofText?]
  outcome := by
    have hout := run_runTexts env cwd clock files texts
    cases hplan : (Config.inEffect env.config? cwd files).plan texts with
    | ok p =>
      rw [hplan] at hout
      have htold : (traceOf env cwd clock files texts).outcome = .ok p := by
        rw [traceOf, hplan, Except.mapError]
      obtain ⟨parts, hresult, hparts, herror⟩ := Trace.exists_parts htold
      rw [hout]
      dsimp only
      exact Or.inl ⟨rfl, p, parts, rfl, rfl, hresult, hparts, herror⟩
    | error e =>
      rw [hplan] at hout
      have htold : (traceOf env cwd clock files texts).outcome = .error e.message := by
        rw [traceOf, hplan, Except.mapError]
      rw [hout]
      dsimp only
      refine Or.inr ⟨rfl, e.message, ?_, ?_, getLast?_lines_error env cwd files hplan⟩
      · rw [Trace.lookup_result, Trace.resultJson, htold]
      · rw [Trace.lookup_error, Trace.errorJson, htold]

/-- **A trace tells what happened.**  If the directory for traces takes them, a run with texts that
asks for more than help leaves a file there whose text denotes an object that tells the truth about
it. -/
theorem run_tellsRun {texts : List String} {directory : Path}
    (hhelp : ¬(texts = ["-h"] ∨ texts = ["--help"]))
    (hdirectory : Trace.directoryOf? env.traceDir? = some directory)
    (htakes : files.TakesTraces directory) :
    let ran := (run (m := StateM FileSystem) env cwd clock (texts.map Utf8.encode)).run files
    ∃ text members, ran.2.readFile (Trace.fileIn directory) = .ok (Utf8.encode text) ∧
      Json.standard.parse? text = some (.object members) ∧
      TellsRun env cwd files texts ran.1 members := by
  have hread := (traceOf env cwd clock files texts).readFile_of_writeIfAsked hdirectory htakes
  rw [run_of_texts env cwd clock hhelp]
  refine ⟨_, _, ?_, Trace.parse?_render (traceOf env cwd clock files texts),
    tellsRun_traceOf env cwd clock files texts⟩
  rw [run_runTexts]
  exact hread

end Run

/-- In a directory that is made for it below a link, a plan with the config that is found there, and
the error of a flag that waits for its value. -/
theorem run_tellsRun_linked :
    let files : FileSystem := ⟨.directory
      [(Utf8.encode "gtest-wrapper.json", .file (Utf8.encode "\x7b\"workers\": 8\x7d")),
        (Utf8.encode "logs", .link (.ofString "/var")),
        (Utf8.encode "var", .directory [])], []⟩
    let env : Environment := ⟨none, none, none, some (Utf8.encode " /logs/runs ")⟩
    let ran := fun texts : List String =>
      (run (m := StateM FileSystem) env (.ofString "/") ⟨some 5, none⟩
        (texts.map Utf8.encode)).run files
    ∀ texts ∈ [["prog", "-r", "3"], ["prog", "-r"]],
      ∃ text members,
        (ran texts).2.readFile (.ofString "/logs/runs/translate_trace.json")
          = .ok (Utf8.encode text) ∧
        Json.standard.parse? text = some (.object members) ∧
        TellsRun env (.ofString "/") files texts (ran texts).1 members := by
  intro files env ran texts htexts
  have hhelp : ¬(texts = ["-h"] ∨ texts = ["--help"]) := by
    revert texts
    decide
  have hdirectory : Trace.directoryOf? env.traceDir? = some (.ofString "/logs/runs") := by
    decide +kernel
  have hfile : Trace.fileIn (.ofString "/logs/runs")
      = .ofString "/logs/runs/translate_trace.json" := by
    decide +kernel
  have htakes : files.TakesTraces (.ofString "/logs/runs") :=
    ⟨by decide +kernel, by decide +kernel⟩
  have htold := run_tellsRun env (.ofString "/") ⟨some 5, none⟩ files hhelp hdirectory htakes
  rw [hfile] at htold
  exact htold

end LaunchLine
