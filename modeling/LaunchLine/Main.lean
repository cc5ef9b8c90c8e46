import LaunchLine.SourceRules.Check
import LaunchLine.Wrapper
import Std.Time.DateTime.Timestamp

/-!
# Main — the programs on the files of the machine

Started as `check_source_rules`, the program checks the workspace in the current directory; under
any other name it is the wrapper.  Here files, environment and clocks are looked at and the results
printed; what is done with them is decided elsewhere.
-/

namespace LaunchLine

/-- The operating system's error as one of ours; what cannot be told apart is not found. -/
def fileErrorOf : IO.Error → FileError
  | .alreadyExists .. => .alreadyExists
  | .inappropriateType _ 21 _ => .isDirectory
  | .inappropriateType .. => .notDirectory
  | .resourceExhausted _ 36 _ => .nameTooLong
  | .invalidArgument _ 36 _ => .nameTooLong
  | .invalidArgument _ 40 _ => .tooManyLinks
  | _ => .notFound

/-- Do something with the text of a path. -/
def withPath {α : Type} (p : Path) (act : String → IO α) : IO (Except FileError α) :=
  match Utf8.decode? p.bytes with
  | none => return .error .notFound
  | some text =>
    try
      return .ok (← act text)
    catch e =>
      return .error (fileErrorOf e)

instance : FileAccess IO where
  isFile p := do
    match ← withPath p fun text => do return (← (← IO.FS.realPath text).metadata).type == .file with
    | .ok answer => return answer
    | .error _ => return false
  readFile p := withPath p fun text => do return (← IO.FS.readBinFile text).toList
  createDirectories p := withPath p fun text => IO.FS.createDirAll text
  writeFile p content := withPath p fun text => IO.FS.writeBinFile text ⟨content.toArray⟩

/-- The value of an environment variable. -/
def envValue? (name : String) : IO (Option Bytes) := do
  return (← IO.getEnv name).map Utf8.encode

/-- The environment of the process. -/
def readEnvironment : IO Environment := do
  return {
    config? := ← envValue? "GTEST_WRAPPER_CONFIG"
    format? := ← envValue? "GTEST_WRAPPER_FORMAT"
    verbose? := ← envValue? "GTEST_WRAPPER_VERBOSE"
    traceDir? := ← envValue? "GTEST_WRAPPER_DIAGNOSTICS_DIR" }

/-- Print what a program left behind; the answer is the code with which it ends. -/
def report (outcome : Outcome) : IO UInt32 := do
  IO.eprint outcome.stderr
  IO.print outcome.stdout
  return outcome.exitCode.toUInt32

/-- Run the wrapper. -/
def runWrapper (arguments : List String) : IO UInt32 := do
  let started ← IO.monoMsNow
  let cwd := Path.ofString (← IO.currentDir).toString
  let now := (← Std.Time.Timestamp.now).toMillisecondsSinceUnixEpoch.val
  let clock : Clock := ⟨some now.toNat, some ((← IO.monoMsNow) - started)⟩
  report (← run (← readEnvironment) cwd clock (arguments.map Utf8.encode))

/-- A directory entry as a node.  Only what the source rules look at is read. -/
partial def nodeOf (entry : IO.FS.DirEntry) : IO (Name × Node) := do
  let name := Utf8.encode entry.fileName
  match (← entry.path.symlinkMetadata).type with
  | .dir =>
    if Node.isSkippedName name then return (name, .emptyDirectory)
    return (name, .directory (← (← entry.path.readDir).toList.mapM nodeOf))
  | .symlink => return (name, .link (.ofString (← IO.FS.realPath entry.path).toString))
  | _ =>
    if Scope.isSource [name] then
      return (name, .file (← IO.FS.readBinFile entry.path).toList)
    return (name, .file [])

/-- Check the sources in the current directory. -/
def runCheck : IO UInt32 := do
  let directory ← IO.currentDir
  let root := Path.ofString directory.toString
  let entries ← (← directory.readDir).toList.mapM nodeOf
  let place := root.names
  let files : FileSystem := ⟨.put (.directory entries) place .emptyDirectory, place⟩
  report (SourceRules.check files root)

end LaunchLine

def main (arguments : List String) : IO UInt32 := do
  if (← IO.appPath).fileName == some "check_source_rules" then LaunchLine.runCheck
  else LaunchLine.runWrapper arguments
