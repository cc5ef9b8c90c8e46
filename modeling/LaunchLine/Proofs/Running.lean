import LaunchLine.Proofs.Loading
import LaunchLine.Proofs.Utf8
import LaunchLine.Wrapper

/-!
# Proofs/Running — with which code a run ends, and what it prints

Whether a run fails is decided by its arguments alone: they have to be texts and, unless they ask
for help, to have a plan without any config.  The config in effect is accepted, so it changes what
is printed and never whether; and the trace, which is written before the output, changes neither.
-/

namespace LaunchLine

namespace Outcome

/-- **The run failed**: it ended with code 2 and printed nothing. -/
def Fails (outcome : Outcome) : Prop :=
  outcome.exitCode = 2 ∧ outcome.stdout = ""

/-- **The run printed a text**, and ended with code 0. -/
def Prints (outcome : Outcome) (text : String) : Prop :=
  outcome.exitCode = 0 ∧ outcome.stdout = text

theorem fails_mk (stderr : String) : Fails ⟨2, "", stderr⟩ :=
  ⟨rfl, rfl⟩

theorem prints_mk (text stderr : String) : Prints ⟨0, text, stderr⟩ text :=
  ⟨rfl, rfl⟩

end Outcome

/-! ## Arguments as texts -/

theorem textArguments_map_encode (texts : List String) :
    textArguments (texts.map Utf8.encode) = .ok texts := by
  induction texts with
  | nil => rfl
  | cons text texts ih =>
    rw [List.map_cons, textArguments, Utf8.decode?_encode, ih]
    rfl

theorem exists_error_of_textArguments {arguments : List Bytes} {bytes : Bytes}
    (hmem : bytes ∈ arguments) (h : ∀ text, Utf8.encode text ≠ bytes) :
    ∃ e, textArguments arguments = .error e := by
  have hbytes : Utf8.decode? bytes = none :=
    Option.eq_none_iff_forall_ne_some.2 fun text htext => h text (Utf8.decode?_eq_some_iff.1 htext)
  induction arguments with
  | nil => cases hmem
  | cons argument arguments ih =>
    rw [textArguments]
    cases hargument : Utf8.decode? argument with
    | none => exact ⟨argument, rfl⟩
    | some text =>
      rcases List.mem_cons.1 hmem with rfl | hmem
      · cases hbytes.symm.trans hargument
      · obtain ⟨e, he⟩ := ih hmem
        exact ⟨e, by rw [he]; rfl⟩

/-! ## A run with texts -/

/-- A step of a program on files, and the steps behind it. -/
theorem run_bind_files {α β : Type} (first : StateM FileSystem α) (next : α → StateM FileSystem β)
    (files : FileSystem) :
    (first >>= next).run files = (next (first.run files).1).run (first.run files).2 := rfl

section Run

variable (env : Environment) (cwd : Path) (clock : Clock) (files : FileSystem)

/-- The path of the config in effect; one that was left out has none. -/
def pathInEffect? : Option Path :=
  match Config.loaded env.config? cwd files with
  | .ok (_, path?) => path?
  | .error _ => none

/-- Whether a run reports what is going on; the config in effect may ask for that too. -/
def isVerboseRun : Bool :=
  env.isVerbose || (Config.inEffect env.config? cwd files).verbose? == some true

/-- What is reported of the config: that it was left out, and which one it is. -/
def configReport : String :=
  (match Config.loaded env.config? cwd files with
    | .ok _ => ""
    | .error e => reportLine ("warning: ignoring config: " ++ e.message)) ++
  if isVerboseRun env cwd files then
    reportLine ("config=" ++ ((pathInEffect? env cwd files).map Path.display).getD "<none>")
  else ""

/-- What is reported of a plan. -/
def commandReport (p : LaunchPlan) : String :=
  if isVerboseRun env cwd files then
    reportLine ("Translated command: " ++ p.shellText launcherName)
  else ""

/-- The trace of a run with texts. -/
def traceOf (texts : List String) : Trace where
  arguments := texts
  configPath? := pathInEffect? env cwd files
  clock := clock
  outcome := ((Config.inEffect env.config? cwd files).plan texts).mapError ArgumentError.message

/-- **What a run with texts does**: it plans them with the config in effect, writes the trace of
that if it is asked to, and tells how it went. -/
theorem run_runTexts (texts : List String) :
    (runTexts (m := StateM FileSystem) env cwd clock texts).run files =
      (match (Config.inEffect env.config? cwd files).plan texts with
        | .error e => ⟨2, "", configReport env cwd files ++ reportLine ("error: " ++ e.message)⟩
        | .ok p => ⟨0, printed env.outputForm p,
            configReport env cwd files ++ commandReport env cwd files p⟩,
      (((traceOf env cwd clock files texts).writeIfAsked (m := StateM FileSystem)
        env.traceDir?).run files).2) := by
  rw [runTexts, run_bind_files, Config.run_load, traceOf, configReport, pathInEffect?]
  unfold commandReport isVerboseRun Config.inEffect
  cases Config.loaded env.config? cwd files with
  | ok found =>
    obtain ⟨cfg, path?⟩ := found
    dsimp only
    rw [run_bind_files]
    cases cfg.plan texts with
    | error e => rfl
    | ok p => rfl
  | error e =>
    dsimp only
    rw [run_bind_files]
    cases Config.empty.plan texts with
    | error e => rfl
    | ok p => rfl

/-- A run with texts does what their plan with the config in effect says. -/
theorem outcome_runTexts (texts : List String) :
    let outcome := ((runTexts (m := StateM FileSystem) env cwd clock texts).run files).1
    match (Config.inEffect env.config? cwd files).plan texts with
    | .error _ => outcome.Fails
    | .ok p => outcome.Prints (printed env.outputForm p) := by
  rw [run_runTexts]
  cases (Config.inEffect env.config? cwd files).plan texts with
  | error e => exact Outcome.fails_mk _
  | ok p => exact Outcome.prints_mk _ _

/-- **The config never decides** whether a run with texts fails. -/
theorem outcome_runTexts_of_plan (texts : List String) :
    let outcome := ((runTexts (m := StateM FileSystem) env cwd clock texts).run files).1
    match plan texts with
    | .error _ => outcome.Fails
    | .ok _ => ∃ q, (Config.inEffect env.config? cwd files).plan texts = .ok q ∧
        outcome.Prints (printed env.outputForm q) := by
  have houtcome := outcome_runTexts env cwd clock files texts
  obtain ⟨settings, hplan⟩ := Config.exists_plan_of_isAccepted
    (Config.isAccepted_inEffect env.config? cwd files)
  rw [hplan] at houtcome ⊢
  rw [plan_eq]
  cases hread : readArguments texts with
  | error e =>
    rw [hread] at houtcome
    exact houtcome
  | ok r =>
    rw [hread] at houtcome
    exact ⟨_, rfl, houtcome⟩

/-! ## A run of the program -/

/-- Arguments that are texts, and more than a call for help. -/
theorem run_of_texts {texts : List String} (hhelp : ¬(texts = ["-h"] ∨ texts = ["--help"])) :
    run (m := StateM FileSystem) env cwd clock (texts.map Utf8.encode)
      = runTexts env cwd clock texts := by
  have hasks : ¬ asksForHelp texts = true := fun hasks => hhelp (by
    simpa [asksForHelp, or_comm] using hasks)
  rw [run, textArguments_map_encode]
  dsimp only
  rw [if_neg hasks]

/-- What a run leaves behind, given all files. -/
def runOutcome (arguments : List Bytes) : Outcome :=
  ((run (m := StateM FileSystem) env cwd clock arguments).run files).1

/-- **How a run ends**, whatever its environment and the files.  An argument that is no text makes
it fail.  To ask for help and for nothing else prints the help.  Otherwise it fails exactly if its
arguments have no plan by themselves; and if they have one, it prints, in the form that is asked
for, their plan with the config in effect. -/
theorem runOutcome_decided (arguments : List Bytes) :
    ((∃ bytes ∈ arguments, ∀ text, Utf8.encode text ≠ bytes) →
      (runOutcome env cwd clock files arguments).Fails) ∧
    ∀ texts : List String, texts.map Utf8.encode = arguments →
      (texts = ["-h"] ∨ texts = ["--help"] →
        (runOutcome env cwd clock files arguments).Prints usage) ∧
      (¬(texts = ["-h"] ∨ texts = ["--help"]) →
        (∀ e, plan texts = .error e → (runOutcome env cwd clock files arguments).Fails) ∧
        ∀ p, plan texts = .ok p → ∃ q, (Config.inEffect env.config? cwd files).plan texts = .ok q ∧
          (runOutcome env cwd clock files arguments).Prints (printed env.outputForm q)) := by
  constructor
  · rintro ⟨bytes, hmem, hbytes⟩
    obtain ⟨e, he⟩ := exists_error_of_textArguments hmem hbytes
    rw [runOutcome, run, he]
    exact Outcome.fails_mk _
  · rintro texts rfl
    rw [runOutcome, run, textArguments_map_encode]
    refine ⟨fun hhelp => ?_, fun hhelp => ?_⟩
    · have hasks : asksForHelp texts = true := by
        rcases hhelp with rfl | rfl <;> rfl
      dsimp only
      rw [if_pos hasks]
      exact Outcome.prints_mk _ _
    · have hasks : ¬ asksForHelp texts = true := fun hasks => hhelp (by
        simpa [asksForHelp, or_comm] using hasks)
      have houtcome := outcome_runTexts_of_plan env cwd clock files texts
      dsimp only
      rw [if_neg hasks]
      refine ⟨fun e hplan => ?_, fun p hplan => ?_⟩
      · rw [hplan] at houtcome
        exact houtcome
      · rw [hplan] at houtcome
        exact houtcome

end Run

/-- With a config whose last flag waits for a value: an argument that is no text, the call for help,
a flag that waits for its value, and a test.  That config is left out, and the one in the current
directory is not tried in its place; it is in effect if none is given. -/
theorem runOutcome_decided_broken :
    let files : FileSystem := ⟨.directory
      [(Utf8.encode "broken.json", .file (Utf8.encode "\x7b\"extraArgs\": [\"-r\"]\x7d")),
        (Utf8.encode "gtest-wrapper.json", .file (Utf8.encode "\x7b\"workers\": 8\x7d"))], []⟩
    let given : Environment := ⟨some (Utf8.encode "/broken.json"), none, none, none⟩
    let asShell : Environment := ⟨none, some (Utf8.encode "shell"), none, none⟩
    (runOutcome given (.ofString "/") ⟨none, none⟩ files [Utf8.encode "--help", [0xFF]]).Fails ∧
    (runOutcome given (.ofString "/") ⟨none, none⟩ files [Utf8.encode "--help"]).Prints usage ∧
    (runOutcome given (.ofString "/") ⟨none, none⟩ files [Utf8.encode "-r"]).Fails ∧
    (runOutcome given (.ofString "/") ⟨none, none⟩ files [Utf8.encode "prog"]).Prints
      "--shard_index=0\n--shard_count=1\nprog\n" ∧
    (runOutcome asShell (.ofString "/") ⟨none, none⟩ files [Utf8.encode "prog"]).Prints
      "gtest-parallel --shard_index=0 --shard_count=1 --workers=8 prog\n" := by
  intro files given asShell
  have hflag : ¬(["-r"] = ["-h"] ∨ ["-r"] = ["--help"]) := by decide
  have htest : ¬(["prog"] = ["-h"] ∨ ["prog"] = ["--help"]) := by decide
  refine ⟨?noText, ?help, ?missing, ?broken, ?found⟩
  case noText =>
    have hbytes : ∀ text, Utf8.encode text ≠ [0xFF] := fun text htext => by
      have hnone : Utf8.decode? [0xFF] = none := by decide
      cases hnone.symm.trans (Utf8.decode?_eq_some_iff.2 htext)
    exact (runOutcome_decided given (.ofString "/") ⟨none, none⟩ files _).1
      ⟨[0xFF], List.mem_cons_of_mem _ (List.mem_singleton.2 rfl), hbytes⟩
  case help =>
    exact ((runOutcome_decided given (.ofString "/") ⟨none, none⟩ files _).2 ["--help"] rfl).1
      (.inr rfl)
  case missing =>
    exact (((runOutcome_decided given (.ofString "/") ⟨none, none⟩ files _).2 ["-r"] rfl).2
      hflag).1 _ rfl
  case broken =>
    have hplan : (Config.inEffect given.config? (.ofString "/") files).plan ["prog"] = .ok
        ⟨["--shard_index=0", "--shard_count=1", "prog"], [], some "prog", [], none, none⟩ := by
      decide +kernel
    have hform : given.outputForm = .lines := by decide +kernel
    obtain ⟨q, hq, hprints⟩ := (((runOutcome_decided given (.ofString "/") ⟨none, none⟩ files
      [Utf8.encode "prog"]).2 ["prog"] rfl).2 htest).2 _ rfl
    obtain rfl := Except.ok.inj (hplan.symm.trans hq)
    rw [hform] at hprints
    exact hprints
  case found =>
    have hplan : (Config.inEffect asShell.config? (.ofString "/") files).plan ["prog"] = .ok
        ⟨["--shard_index=0", "--shard_count=1", "--workers=8", "prog"], ["--workers=8"],
          some "prog", [], none, none⟩ := by
      decide +kernel
    have hform : asShell.outputForm = .shell := by decide +kernel
    obtain ⟨q, hq, hprints⟩ := (((runOutcome_decided asShell (.ofString "/") ⟨none, none⟩ files
      [Utf8.encode "prog"]).2 ["prog"] rfl).2 htest).2 _ rfl
    obtain rfl := Except.ok.inj (hplan.symm.trans hq)
    rw [hform] at hprints
    exact hprints

end LaunchLine
