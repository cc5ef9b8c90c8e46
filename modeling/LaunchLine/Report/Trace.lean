import LaunchLine.Files.Access
import LaunchLine.Report.Render
import LaunchLine.Text.Blank

/-!
# Report/Trace — a record of one run

A trace is a JSON file that tells what was asked, with which config, when, and what came of it.  It
is written into a directory for diagnostics, which is made if it is missing.
-/

namespace LaunchLine

/-- What the clocks show when a trace is written: milliseconds since 1970, and since the start of
the program if that was noted. -/
structure Clock where
  unixMillis? : Option Nat
  elapsedMillis? : Option Nat
  deriving DecidableEq, Repr

/-- What a trace tells.  The outcome is a launch plan, or the text of an error. -/
structure Trace where
  arguments : List String
  configPath? : Option Path
  clock : Clock
  outcome : Except String LaunchPlan

namespace Trace

/-- The name of the file that holds a trace. -/
def fileName : String := "translate_trace.json"

/-- The version of the form below. -/
def formVersion : Nat := 1

/-- The trace as a JSON object.  Of its last two members one is null. -/
def toJson (t : Trace) : Json.Value :=
  let (result, error) :=
    match t.outcome with
    | .ok p => (p.toJson, .null)
    | .error message => (.null, .string message)
  .object
    [("schema_version", .ofNat formVersion),
     ("argv", .ofTexts t.arguments),
     ("config_path", .ofText? (t.configPath?.map Path.display)),
     ("written_at_unix_ms", .ofNat? t.clock.unixMillis?),
     ("elapsed_ms", .ofNat? t.clock.elapsedMillis?),
     ("result", result),
     ("error", error)]

variable {m : Type → Type} [Monad m] [FileAccess m]

/-- Write the trace into a directory; the answer is its path. -/
def write (t : Trace) (directory : Path) : m (Except FileError Path) := do
  match ← FileAccess.createDirectories directory with
  | .error e => return .error e
  | .ok () =>
    let path := directory.join (Utf8.encode fileName)
    match ← FileAccess.writeFile path (Utf8.encode t.toJson.render) with
    | .error e => return .error e
    | .ok () => return .ok path

/-- The directory for traces that a setting names, if it names one. -/
def directoryOf? (setting? : Option Bytes) : Option Path := do
  let text ← Utf8.decode? (← setting?)
  let name ← Text.trimmed? text
  some (.ofString name)

/-- Write the trace if a directory for traces is set.  A trace that cannot be written is given up.
-/
def writeIfAsked (t : Trace) (setting? : Option Bytes) : m Unit := do
  match directoryOf? setting? with
  | none => return ()
  | some directory =>
    let _ ← t.write directory
    return ()

end Trace

end LaunchLine
