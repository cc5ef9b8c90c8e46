import LaunchLine.Outcome
import LaunchLine.SourceRules.Scope
import LaunchLine.SourceRules.Violation
import LaunchLine.Text.Quoted

/-!
# SourceRules/Check — the rules applied to a workspace

`overlong` reports the files that have more lines than allowed, the longest first;
`panicsInLibrary` reports the panicking calls of the library.  `check` puts both reports
together.  The files are read by their paths, and one that cannot be read, or is not text, stops the
check.
-/

namespace LaunchLine.SourceRules

/-- The most lines that a file may have. -/
def maxLines : Nat := 400

/-- Why sources cannot be checked. -/
inductive ScanError
  | unreadable (path : Path) (error : FileError)
  | notText (path : Path)
  deriving DecidableEq, Repr

/-- The error as it is reported. -/
def ScanError.message : ScanError → String
  | unreadable path error => "failed reading " ++ Text.quoted path.display ++ ": " ++ error.message
  | notText path => "failed reading " ++ Text.quoted path.display ++ ": " ++ Utf8.notTextMessage

/-- The text of the file at a path. -/
def readSource (fs : FileSystem) (path : Path) : Except ScanError String :=
  match fs.readFile path with
  | .error e => .error (.unreadable path e)
  | .ok content =>
    match Utf8.decode? content with
    | some text => .ok text
    | none => .error (.notText path)

/-- The source texts of a scope with their paths. -/
def sources (scope : Scope) (fs : FileSystem) (root : Path) :
    Except ScanError (List (Path × String)) :=
  (scope.files fs root).mapM fun (path, _) => (readSource fs path).map fun text => (path, text)

/-- Whether the first of two measured files is reported before the second, or the files are equally
long. -/
def lengthGE (a b : Path × Nat) : Bool :=
  b.2 ≤ a.2

/-- The files with more lines than allowed, the longest first; files of one length stay in the order
of their paths. -/
def overlong (fs : FileSystem) (root : Path) (limit : Nat) : Except ScanError (List Violation) :=
  (sources .workspace fs root).map fun texts =>
    let measured := texts.map fun (path, text) => (path, Text.lineCount text)
    let long := measured.filter fun (_, count) => limit < count
    (long.mergeSort lengthGE).map fun (path, count) => .overlong path count

/-- The panicking calls of the library. -/
def panicsInLibrary (fs : FileSystem) (root : Path) : Except ScanError (List Violation) :=
  (sources .library fs root).map fun texts =>
    texts.flatMap fun (path, text) => panicsIn path text

/-- All breaches of the rules. -/
def violations (fs : FileSystem) (root : Path) : Except ScanError (List Violation) := do
  let long ← overlong fs root maxLines
  let panicking ← panicsInLibrary fs root
  return long ++ panicking

/-- The outcome of a check that found some violations. -/
def outcomeOf : List Violation → Outcome
  | [] => ⟨0, "", ""⟩
  | v :: vs =>
    let found := v :: vs
    ⟨1, "", "found " ++ found.length.repr ++ " source rule violations:\n" ++
      "\n".intercalate (found.map Violation.message) ++ "\n"⟩

/-- Check a workspace. -/
def check (fs : FileSystem) (root : Path) : Outcome :=
  match violations fs root with
  | .ok found => outcomeOf found
  | .error e => ⟨101, "", e.message ++ "\n"⟩

end LaunchLine.SourceRules
