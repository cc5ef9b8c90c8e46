import LaunchLine.CommandLine.LaunchPlan
import LaunchLine.Json.Printer
import LaunchLine.Shell.Quoting

/-!
# Report/Render — a launch plan as text

There are three forms: the launcher's arguments one a line, the whole plan as a JSON object,
and a command line for a shell.
-/

namespace LaunchLine.LaunchPlan

/-- The launcher's arguments, each ended by a line feed. -/
def lineText (p : LaunchPlan) : String :=
  String.join (p.launcherArgs.map (· ++ "\n"))

/-- The plan as a JSON object of its six parts. -/
def toJson (p : LaunchPlan) : Json.Value :=
  .object
    [("wrapper_args", .ofTexts p.launcherArgs),
     ("rewritten_options", .ofTexts p.slotArgs),
     ("executable", .ofText? p.executable?),
     ("passthrough_args", .ofTexts p.passedOn),
     ("output_dir", .ofText? p.outputDir?),
     ("test_artifacts_dir", .ofText? p.artifactsDir?)]

/-- The plan as JSON text. -/
def jsonText (p : LaunchPlan) : String :=
  p.toJson.render

/-- The launcher's command line for a shell. -/
def shellText (program : String) (p : LaunchPlan) : String :=
  Shell.commandLine program p.launcherArgs

end LaunchLine.LaunchPlan
