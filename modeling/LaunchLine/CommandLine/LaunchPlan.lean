import LaunchLine.CommandLine.Scan

/-!
# CommandLine/LaunchPlan — from the wrapper's command line to the launcher's

A launch plan tells the launcher's argument list: one shard, the filled slots, the test executable
and, behind `--`, the arguments of the test.  The **executable** is the first loose word that does
not look like an option; all other loose words are passed through to the test.  If the test's
artifacts are to be kept and there is an output directory to keep them in, the test is told where to
put them.
-/

namespace LaunchLine

/-- One shard, which is all of the tests: whoever starts the wrapper does the sharding. -/
def singleShard : List String := ["--shard_index=0", "--shard_count=1"]

/-- The directory for artifacts, inside the output directory. -/
def artifactsSubdir : String := "test_artifacts"

/-- The test's own option for the directory of its artifacts. -/
def artifactsFlag : String := "--test_artifacts_dir"

/-- A launch, as the wrapper's command line asks for it. -/
structure LaunchPlan where
  /-- The launcher's whole argument list. -/
  launcherArgs : List String
  /-- The filled slots, each as the launcher is told. -/
  slotArgs : List String
  executable? : Option String
  /-- The loose words, the executable apart. -/
  passedOn : List String
  outputDir? : Option String
  artifactsDir? : Option String
  deriving DecidableEq, Repr

/-- The arguments of the test: where its artifacts go, then what is passed through to it. -/
def testArgsOf (artifactsDir? : Option String) (passedOn : List String) : List String :=
  (artifactsDir?.map fun dir => artifactsFlag ++ "=" ++ dir).toList ++ passedOn

/-- The launcher's argument list, from its parts. -/
def launcherArgsOf (options : List String) (executable? : Option String) (testArgs : List String) :
    List String :=
  singleShard ++ options ++ executable?.toList ++
    if testArgs = [] then [] else divider :: testArgs

/-- Where artifacts go, given the output directory: one level below it, however many slashes it ends
in. -/
def artifactsDirIn? (outputDir : String) : Option String :=
  if outputDir = "" then none
  else
    let base := (outputDir.toList.reverse.dropWhile (· == '/')).reverse
    some (String.ofList base ++ "/" ++ artifactsSubdir)

/-- The arguments of the test. -/
def LaunchPlan.testArgs (p : LaunchPlan) : List String :=
  testArgsOf p.artifactsDir? p.passedOn

/-- The plan of a scan that is through. -/
def Scan.finish (scan : Scan) : LaunchPlan :=
  let artifactsDir? := if scan.keepsArtifacts then scan.outputDir?.bind artifactsDirIn? else none
  let testArgs := testArgsOf artifactsDir? scan.passedOn
  { launcherArgs := launcherArgsOf scan.slots.render scan.executable? testArgs
    slotArgs := scan.slots.render
    executable? := scan.executable?
    passedOn := scan.passedOn
    outputDir? := scan.outputDir?
    artifactsDir? }

/-- The launch that a command line asks for. -/
def plan (arguments : List String) : Except ArgumentError LaunchPlan :=
  (Scan.empty.takeArguments 0 arguments).map Scan.finish

/-- The launch that a command line asks for, with presets in front of it.  The command line
overrides the value of a preset and leaves its place. -/
def planWith (presets arguments : List String) : Except ArgumentError LaunchPlan := do
  let scan ← Scan.empty.takePresets 0 presets
  let scan ← scan.takeArguments 0 arguments
  return scan.finish

end LaunchLine
