import LaunchLine.Files.Lookup

/-!
# SourceRules/Scope — which source files a rule looks at

A scope is a directory of the workspace and a test on the paths below it.  Directories that hold no
sources of their own are not entered, and links below the directory are not followed.  A directory
is opened by its path; one whose path is too long for that shows nothing.
-/

namespace LaunchLine

namespace Node

/-- Whether a directory is passed over for its name. -/
def isSkippedName (name : Name) : Bool :=
  ["target", ".git", "snapshots", "examples"].any fun skipped => Utf8.encode skipped == name

mutual

/-- The files below a node at a path, each with its way from there. -/
def filesBelow (path : Path) : Node → List (List Name × Bytes)
  | .file content => [([], content)]
  | .link _ => []
  | .directory entries =>
    if FileSystem.maxPathLength ≤ path.bytes.length then [] else filesIn path entries

/-- The files below the entries of a directory at a path. -/
def filesIn (path : Path) : List (Name × Node) → List (List Name × Bytes)
  | [] => []
  | (name, child) :: rest =>
    (if child.isDirectory && isSkippedName name then []
      else (filesBelow (path.join name) child).map fun (way, content) => (name :: way, content)) ++
    filesIn path rest

end

end Node

/-- The source files that a rule looks at. -/
inductive Scope
  /-- All sources and tests. -/
  | workspace
  /-- The library without its program and its unit tests. -/
  | library
  deriving DecidableEq, Repr

namespace Scope

/-- The directory in which a scope lies. -/
def base (root : Path) : Scope → Path
  | workspace => root
  | library => (root.join (Utf8.encode "gtest_wrapper")).join (Utf8.encode "src")

/-- Whether a file belongs to a scope, by its path below the scope's directory. -/
def includes : Scope → List Name → Bool
  | workspace, place =>
    place.any fun name => name == Utf8.encode "src" || name == Utf8.encode "tests"
  | library, place =>
    match place.getLast? with
    | none => false
    | some name =>
      match Utf8.decode? name with
      | none => false
      | some text => text != "main.rs" && !("_test.rs".toList.isSuffixOf text.toList)

/-- Whether a file holds source text, by its name. -/
def isSource (place : List Name) : Bool :=
  (place.getLast?.bind Path.extensionOf?) == some (Utf8.encode "rs")

/-- Paths from one directory, compared name by name. -/
def placeLE (a b : List Name × Bytes) : Bool :=
  decide (a.1 ≤ b.1)

/-- The files of a scope with their paths, in the order of these. -/
def files (scope : Scope) (fs : FileSystem) (root : Path) : List (Path × Bytes) :=
  match fs.find? (scope.base root) with
  | .error _ => []
  | .ok (_, node) =>
    let chosen := (node.filesBelow (scope.base root)).filter fun (place, _) =>
      isSource place && scope.includes place
    (chosen.mergeSort placeLE).map fun (place, content) =>
      (place.foldl Path.join (scope.base root), content)

end Scope

end LaunchLine
