import LaunchLine.Proofs.Running
import LaunchLine.Proofs.Writing

/-!
# Proofs/Diagnostics — reports and traces are only told

Whether reports and traces are asked for decides neither how a run ends nor what it prints; and the
form of the output decides nothing else, so that the traces of two runs differ in what the clocks
show and in nothing besides (`runOutcome_diagnostics`).
-/

namespace LaunchLine

/-! ## Writing a trace -/

namespace Trace

/-- What the file of a trace holds. -/
def content (t : Trace) : Bytes :=
  Utf8.encode t.toJson.render

/-- The file of a trace in a directory. -/
def fileIn (directory : Path) : Path :=
  directory.join (Utf8.encode fileName)

/-- The files after a trace was written: its directory is made, and one file is set in it. -/
theorem run_writeIfAsked (t : Trace) {setting? : Option Bytes} {directory : Path}
    (hdirectory : directoryOf? setting? = some directory) (files : FileSystem) :
    ((t.writeIfAsked (m := StateM FileSystem) setting?).run files).2 =
      match (FileSystem.createDirectories directory).run files with
      | (.error _, made) => made
      | (.ok (), made) => ((FileSystem.writeFile (fileIn directory) t.content).run made).2 := by
  have hmake : (FileAccess.createDirectories directory : StateM FileSystem _).run files
      = (FileSystem.createDirectories directory).run files := rfl
  rw [writeIfAsked, hdirectory]
  dsimp only
  rw [run_bind_files, write, run_bind_files, hmake]
  rcases (FileSystem.createDirectories directory).run files with ⟨_ | ⟨⟩, made⟩
  · rfl
  · have hwrite : (FileAccess.writeFile (fileIn directory) t.content : StateM FileSystem _).run made
        = (FileSystem.writeFile (fileIn directory) t.content).run made := rfl
    rw [content, fileIn] at hwrite ⊢
    dsimp only
    rw [run_bind_files, hwrite]
    rcases (FileSystem.writeFile _ _).run made with ⟨_ | ⟨⟩, after⟩ <;> rfl

/-- No trace is written if no directory is set. -/
theorem run_writeIfAsked_none (t : Trace) {setting? : Option Bytes}
    (hdirectory : directoryOf? setting? = none) (files : FileSystem) :
    ((t.writeIfAsked (m := StateM FileSystem) setting?).run files).2 = files := by
  rw [writeIfAsked, hdirectory]
  rfl

end Trace

/-! ## Traces of two runs -/

/-- **Two runs left the same files, up to the clocks**: either the very same, or both set one file
at the same place, a trace that is one and the same but for what the two clocks show. -/
inductive SameTraces (clock clock' : Clock) : FileSystem → FileSystem → Prop
  /-- Without a trace. -/
  | same (files : FileSystem) : SameTraces clock clock' files files
  /-- With the trace of either run. -/
  | traced (t : Trace) (place : List Name) (files : FileSystem) :
    SameTraces clock clock'
      { files with root := (Node.file { t with clock := clock }.content).put place files.root }
      { files with root := (Node.file { t with clock := clock' }.content).put place files.root }

theorem sameTraces_writeIfAsked (t : Trace) (clock' : Clock) (setting? : Option Bytes)
    (files : FileSystem) :
    SameTraces t.clock clock' ((t.writeIfAsked (m := StateM FileSystem) setting?).run files).2
      (({ t with clock := clock' }.writeIfAsked (m := StateM FileSystem) setting?).run files).2 := by
  cases hdirectory : Trace.directoryOf? setting? with
  | none =>
    rw [Trace.run_writeIfAsked_none _ hdirectory, Trace.run_writeIfAsked_none _ hdirectory]
    exact .same files
  | some directory =>
    rw [Trace.run_writeIfAsked _ hdirectory, Trace.run_writeIfAsked _ hdirectory]
    rcases (FileSystem.createDirectories directory).run files with ⟨_ | ⟨⟩, made⟩
    · exact .same made
    · dsimp only
      rw [FileSystem.run_writeFile, FileSystem.run_writeFile]
      cases made.resolve .write (Trace.fileIn directory) with
      | error e => exact .same made
      | ok arrival =>
        dsimp only
        split
        · exact .same made
        · exact .traced t arrival.place made

/-! ## Two runs -/

section Run

variable (env : Environment) (cwd : Path) (clock clock' : Clock) (files : FileSystem)

/-- **Neither reports nor traces change what is printed**, or the code with which a run ends. -/
theorem runOutcome_reports (verbose? traceDir? : Option Bytes) (arguments : List Bytes) :
    let outcome := runOutcome env cwd clock files arguments
    let other := runOutcome { env with verbose?, traceDir? } cwd clock' files arguments
    other.exitCode = outcome.exitCode ∧ other.stdout = outcome.stdout := by
  rw [runOutcome, runOutcome, run, run]
  cases textArguments arguments with
  | error bytes => exact ⟨rfl, rfl⟩
  | ok texts =>
    dsimp only
    split
    · exact ⟨rfl, rfl⟩
    · have hform : { env with verbose?, traceDir? }.outputForm = env.outputForm := by
        dsimp only [Environment.outputForm]
      rw [run_runTexts, run_runTexts]
      dsimp only
      cases (Config.inEffect env.config? cwd files).plan texts with
      | error e => exact ⟨rfl, rfl⟩
      | ok p =>
        dsimp only
        rw [hform]
        exact ⟨rfl, rfl⟩

/-- **The form of the output changes no report and no trace**, nor the code with which a run ends.
-/
theorem run_form (format? : Option Bytes) (arguments : List Bytes) :
    let ran := (run (m := StateM FileSystem) env cwd clock arguments).run files
    let other := (run (m := StateM FileSystem) { env with format? } cwd clock' arguments).run files
    other.1.exitCode = ran.1.exitCode ∧ other.1.stderr = ran.1.stderr ∧
      SameTraces clock clock' ran.2 other.2 := by
  rw [run, run]
  cases textArguments arguments with
  | error bytes => exact ⟨rfl, rfl, .same files⟩
  | ok texts =>
    dsimp only
    split
    · exact ⟨rfl, rfl, .same files⟩
    · have htraces := sameTraces_writeIfAsked (traceOf env cwd clock files texts) clock'
        env.traceDir? files
      rw [run_runTexts, run_runTexts]
      dsimp only
      cases (Config.inEffect env.config? cwd files).plan texts with
      | error e => exact ⟨rfl, rfl, htraces⟩
      | ok p => exact ⟨rfl, rfl, htraces⟩

/-- **Diagnostics do not influence results**, whatever is asked, whatever the files hold and
whenever it is asked.  The settings for reports and for traces decide neither the code with which a
run ends nor what it prints; the one for the form of the output decides neither that code nor a
report, nor what a trace tells apart from the clocks. -/
theorem runOutcome_diagnostics (arguments : List Bytes) :
    (∀ verbose? traceDir?,
      let outcome := runOutcome env cwd clock files arguments
      let other := runOutcome { env with verbose?, traceDir? } cwd clock' files arguments
      other.exitCode = outcome.exitCode ∧ other.stdout = outcome.stdout) ∧
    ∀ format?,
      let ran := (run (m := StateM FileSystem) env cwd clock arguments).run files
      let other := (run (m := StateM FileSystem) { env with format? } cwd clock'
        arguments).run files
      other.1.exitCode = ran.1.exitCode ∧ other.1.stderr = ran.1.stderr ∧
        SameTraces clock clock' ran.2 other.2 :=
  ⟨fun verbose? traceDir? => runOutcome_reports env cwd clock clock' files verbose? traceDir?
    arguments, fun format? => run_form env cwd clock clock' files format? arguments⟩

end Run

end LaunchLine
