/-!
# CommandLine/Flag — the options that the wrapper understands

The launcher has nine options that the wrapper may fill, its **slots**.  A **flag** is an option of
the wrapper's own command line: ten flags fill a slot (two of them the same one), and one asks for
the test's artifacts to be kept.  A flag has a long name and perhaps a short one; no two flags share
a name.
-/

namespace LaunchLine

/-- An option of the launcher, as a place to be filled. -/
inductive Slot
  | timeout
  | outputDir
  | testResults
  | repeatCount
  | workers
  | retryFailed
  | testFilter
  | color
  | runDisabledTests
  deriving DecidableEq, Repr

namespace Slot

/-- The name under which the launcher knows the slot. -/
def name : Slot → String
  | timeout => "--timeout"
  | outputDir => "--output_dir"
  | testResults => "--dump_json_test_results"
  | repeatCount => "--repeat"
  | workers => "--workers"
  | retryFailed => "--retry_failed"
  | testFilter => "--gtest_filter"
  | color => "--gtest_color"
  | runDisabledTests => "--gtest_also_run_disabled_tests"

/-- Whether the slot holds a text; the others are switches. -/
def takesValue : Slot → Bool
  | runDisabledTests => false
  | _ => true

/-- What the launcher is told: the slot's name, and behind an equals sign its value. -/
def render (slot : Slot) (value? : Option String) : String :=
  match value? with
  | some value => slot.name ++ "=" ++ value
  | none => slot.name

end Slot

/-- What a flag of the wrapper brings about. -/
inductive Effect
  | fill (slot : Slot)
  | keepArtifacts
  deriving DecidableEq, Repr

/-- An option of the wrapper's own command line. -/
inductive Flag
  | timeout
  | outputDir
  | storeTestArtifacts
  | isolatedTestOutput
  | testResults
  | repeatCount
  | workers
  | retryFailed
  | testFilter
  | color
  | runDisabledTests
  deriving DecidableEq, Repr

namespace Flag

/-- All flags, in the order in which they are listed. -/
def all : List Flag :=
  [timeout, outputDir, storeTestArtifacts, isolatedTestOutput, testResults, repeatCount, workers,
    retryFailed, testFilter, color, runDisabledTests]

theorem mem_all (flag : Flag) : flag ∈ all := by
  cases flag <;> decide

/-- The long name of a flag. -/
def long : Flag → String
  | timeout => "--timeout"
  | outputDir => "--output_dir"
  | storeTestArtifacts => "--store-test-artifacts"
  | isolatedTestOutput => "--isolated-script-test-output"
  | testResults => "--dump_json_test_results"
  | repeatCount => "--repeat"
  | workers => "--workers"
  | retryFailed => "--retry_failed"
  | testFilter => "--gtest_filter"
  | color => "--gtest_color"
  | runDisabledTests => "--gtest_also_run_disabled_tests"

/-- The short name of a flag, if it has one. -/
def short? : Flag → Option String
  | outputDir => some "-d"
  | repeatCount => some "-r"
  | workers => some "-w"
  | _ => none

/-- What a flag brings about. -/
def effect : Flag → Effect
  | timeout => .fill .timeout
  | outputDir => .fill .outputDir
  | storeTestArtifacts => .keepArtifacts
  | isolatedTestOutput => .fill .testResults
  | testResults => .fill .testResults
  | repeatCount => .fill .repeatCount
  | workers => .fill .workers
  | retryFailed => .fill .retryFailed
  | testFilter => .fill .testFilter
  | color => .fill .color
  | runDisabledTests => .fill .runDisabledTests

/-- Whether a value belongs to the flag: exactly if it fills a slot that holds one. -/
def takesValue (flag : Flag) : Bool :=
  match flag.effect with
  | .fill slot => slot.takesValue
  | .keepArtifacts => false

/-- The name under which a flag's setting is listed: that of its slot, or its own. -/
def settingName (flag : Flag) : String :=
  match flag.effect with
  | .fill slot => slot.name
  | .keepArtifacts => flag.long

/-- Whether the flag goes by the name, long or short. -/
def isNamed (flag : Flag) (name : String) : Bool :=
  flag.long == name || flag.short? == some name

/-- The flag of a name, long or short. -/
def named? (name : String) : Option Flag :=
  all.find? fun flag => flag.isNamed name

theorem isNamed_iff {flag : Flag} {name : String} :
    flag.isNamed name = true ↔ flag.long = name ∨ flag.short? = some name := by
  simp [isNamed]

/-- **No name is shared**: the flag of a name is any flag that goes by it. -/
theorem named?_eq_some_iff {name : String} {flag : Flag} :
    named? name = some flag ↔ flag.isNamed name = true := by
  constructor
  · intro h
    simpa using List.find?_some h
  · intro h
    rcases isNamed_iff.1 h with rfl | h
    · cases flag <;> decide
    · cases flag <;> simp [short?] at h <;> subst h <;> decide

/-- The flag of a long name. -/
def longNamed? (name : String) : Option Flag :=
  all.find? fun flag => flag.long == name

end Flag

end LaunchLine
