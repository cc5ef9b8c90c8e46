import LaunchLine.Config.Basic
import LaunchLine.Files.Access

/-!
# Config/Discovery — which file holds the config

A path that is given is taken as it is.  Otherwise the directory where one starts and those above it
are searched, the nearest first, for the names that a config may have.
-/

namespace LaunchLine.Config

/-- The names that a config may have, the preferred one first. -/
def fileNames : List String :=
  ["gtest-wrapper.json", "gtest-wrapper.json5", "gtest-wrapper.yaml", "gtest-wrapper.yml",
    ".gtest-wrapperrc.json", ".gtest-wrapperrc.yaml"]

/-- The places where a config is looked for, in order. -/
def candidates (start : Path) : List Path :=
  start.ancestors.flatMap fun directory =>
    fileNames.map fun name => directory.join (Utf8.encode name)

variable {m : Type → Type} [Monad m] [FileAccess m]

/-- The first of some paths that names a file. -/
def firstFile : List Path → m (Option Path)
  | [] => pure none
  | p :: ps => do
    if ← FileAccess.isFile p then return some p
    firstFile ps

/-- The path of the config: the given one, unless that is empty, or the nearest candidate. -/
def discover (explicit? : Option Bytes) (start : Path) : m (Option Path) :=
  match explicit? with
  | some (b :: bytes) => pure (some ⟨b :: bytes⟩)
  | _ => firstFile (candidates start)

end LaunchLine.Config
