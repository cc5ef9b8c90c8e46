/-!
# CommandLine/Help — the wrapper's own account of itself

The help text describes the flags and the environment variables in two columns, the second of which
begins at a fixed width.
-/

namespace LaunchLine

namespace Help

/-- A line of two columns, indented. -/
def row (left right : String) : String :=
  "  " ++ left ++ String.ofList (List.replicate (42 - left.length) ' ') ++ right

/-- The flags and what they do. -/
def flagRows : List (String × String) :=
  [("--timeout <seconds>",
      "Per-test timeout (forwarded)"),
    ("-d, --output_dir <dir>",
      "gtest-parallel output directory (forwarded)"),
    ("--store-test-artifacts",
      "Pass --test_artifacts_dir=<output_dir>/test_artifacts to the test"),
    ("--isolated-script-test-output <file>",
      "Forwarded as --dump_json_test_results=<file>"),
    ("--dump_json_test_results <file>",
      "JSON results file (forwarded)"),
    ("-r, --repeat <n>",
      "Repeat count (forwarded)"),
    ("-w, --workers <n>",
      "Worker count (forwarded)"),
    ("--retry_failed <n>",
      "Retry failed tests up to n times (forwarded)"),
    ("--gtest_filter <pattern>",
      "Test filter (forwarded)"),
    ("--gtest_color <yes|no|auto>",
      "Color mode (forwarded)"),
    ("--gtest_also_run_disabled_tests",
      "Run disabled tests too (forwarded)"),
    ("-h, --help",
      "Print help (only as the sole argument)")]

/-- The environment variables and what they do. -/
def environmentRows : List (String × String) :=
  [("GTEST_WRAPPER_CONFIG=<path>",
      "Config file (default: nearest gtest-wrapper.\x7bjson,json5,yaml,yml\x7d)"),
    ("GTEST_WRAPPER_FORMAT=lines|json|shell",
      "Output format (default: lines)"),
    ("GTEST_WRAPPER_VERBOSE=1",
      "Diagnostics on stderr"),
    ("GTEST_WRAPPER_DIAGNOSTICS_DIR=<dir>",
      "Write translate_trace.json there")]

/-- What else there is to know. -/
def notes : List String :=
  ["Always emits --shard_index=0 --shard_count=1 first.",
    "A repeated wrapper option keeps its first position and its last value.",
    "Unknown args are forwarded to the test executable after a single `--`.",
    "Everything after an explicit `--` is forwarded verbatim."]

/-- The lines of the help text. -/
def lines : List String :=
  ["gtest-parallel-wrapper",
    "",
    "Usage:",
    "  gtest-parallel-wrapper [wrapper options] <test executable> [test args...] [-- test args...]",
    "",
    "Prints the gtest-parallel argument vector for the given command line. Nothing is executed.",
    ""] ++
  ["Wrapper options:"] ++ flagRows.map (fun (left, right) => row left right) ++ [""] ++
  ["Environment:"] ++ environmentRows.map (fun (left, right) => row left right) ++ [""] ++
  ["Notes:"] ++ notes.map ("  " ++ ·)

end Help

/-- The help text, each line ended by a line feed. -/
def usage : String :=
  String.join (Help.lines.map fun line => line ++ "\n")

end LaunchLine
