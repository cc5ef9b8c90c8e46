import LaunchLine.CommandLine.Help
import LaunchLine.Config.Load
import LaunchLine.Outcome
import LaunchLine.Report.Trace

/-!
# Wrapper — a run of the whole program

The launch is planned with the config that is found, and the launcher's arguments are printed.  A
config that cannot be used is reported and left out.  Diagnostics, the trace and the form of the
output are asked for by environment variables, and none of them changes the plan.
-/

namespace LaunchLine

/-- The name under which the program reports. -/
def programName : String := "gtest-parallel-wrapper"

/-- The launcher's program. -/
def launcherName : String := "gtest-parallel"

/-- The environment variables that the program looks at; one that is not set is absent. -/
structure Environment where
  /-- The path of the config. -/
  config? : Option Bytes
  /-- The form of the output. -/
  format? : Option Bytes
  /-- Whether to report what is going on. -/
  verbose? : Option Bytes
  /-- The directory for traces. -/
  traceDir? : Option Bytes

/-- The form of the output. -/
inductive OutputForm
  | lines
  | json
  | shell
  deriving DecidableEq, Repr

namespace Environment

/-- A text with upper-case ASCII letters made lower-case. -/
def lowerText (text : String) : String :=
  String.ofList (text.toList.map Char.toLower)

/-- The form of the output that is asked for; anything unknown asks for lines. -/
def outputForm (env : Environment) : OutputForm :=
  let text := (env.format?.bind Utf8.decode?).getD ""
  match lowerText (Text.trim text) with
  | "json" => .json
  | "shell" => .shell
  | _ => .lines

/-- Whether reports are asked for: by any text other than blanks and a zero. -/
def isVerbose (env : Environment) : Bool :=
  match (env.verbose?.bind Utf8.decode?).bind Text.trimmed? with
  | some text => text ≠ "0"
  | none => false

end Environment

/-- A line of a report. -/
def reportLine (text : String) : String :=
  programName ++ ": " ++ text ++ "\n"

/-- The texts of the arguments, or the first one that is none. -/
def textArguments : List Bytes → Except Bytes (List String)
  | [] => .ok []
  | bytes :: rest =>
    match Utf8.decode? bytes with
    | none => .error bytes
    | some text => (textArguments rest).map (text :: ·)

/-- What is printed for a launch plan. -/
def printed (format : OutputForm) (p : LaunchPlan) : String :=
  match format with
  | .lines => p.lineText
  | .shell => p.shellText launcherName ++ "\n"
  | .json => p.jsonText ++ "\n"

/-- Whether help is all that is asked for. -/
def asksForHelp (arguments : List String) : Bool :=
  arguments == ["--help"] || arguments == ["-h"]

variable {m : Type → Type} [Monad m] [FileAccess m]

/-- A run with arguments that are texts, not asking for help. -/
def runTexts (env : Environment) (cwd : Path) (clock : Clock) (arguments : List String) :
    m Outcome := do
  let loaded ← Config.load env.config? cwd
  let (cfg, path?, warning) :=
    match loaded with
    | .ok (cfg, path?) => (cfg, path?, "")
    | .error e => (Config.empty, none, reportLine ("warning: ignoring config: " ++ e.message))
  let verbose := env.isVerbose || cfg.verbose? == some true
  let configReport :=
    if verbose then reportLine ("config=" ++ (path?.map Path.display).getD "<none>") else ""
  let planned := cfg.plan arguments
  let trace : Trace :=
    { arguments, configPath? := path?, clock, outcome := planned.mapError ArgumentError.message }
  trace.writeIfAsked env.traceDir?
  match planned with
  | .error e =>
    return ⟨2, "", warning ++ configReport ++ reportLine ("error: " ++ e.message)⟩
  | .ok p =>
    let commandReport :=
      if verbose then reportLine ("Translated command: " ++ p.shellText launcherName)
      else ""
    return ⟨0, printed env.outputForm p, warning ++ configReport ++ commandReport⟩

/-- A run of the program, in the directory `cwd`. -/
def run (env : Environment) (cwd : Path) (clock : Clock) (arguments : List Bytes) : m Outcome :=
  match textArguments arguments with
  | .error bytes =>
    pure ⟨2, "", reportLine ("error: argument is not valid UTF-8: " ++ Utf8.decodeLossy bytes)⟩
  | .ok texts =>
    if asksForHelp texts then pure ⟨0, usage, ""⟩
    else runTexts env cwd clock texts

end LaunchLine
