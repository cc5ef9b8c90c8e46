import LaunchLine.Files.Tree

/-!
# Files/Lookup — which node a path names

A path is walked step by step from the current directory, or from the root.  Links on the way are
followed, forty of them at most; `..` leads to the directory above the one that was reached.  `walk`
tells where a path arrives: at a node, or at a name that a directory does not have.  What the walk
is for decides about its end: whether a link there is followed, and whether a slash may follow the
last name.
-/

namespace LaunchLine

/-- Why a path cannot be used. -/
inductive FileError
  | notFound
  | alreadyExists
  | notDirectory
  | isDirectory
  | nameTooLong
  | tooManyLinks
  | nulByte
  deriving DecidableEq, Repr

/-- The operating system's words for the error. -/
def FileError.message : FileError → String
  | notFound => "No such file or directory (os error 2)"
  | alreadyExists => "File exists (os error 17)"
  | notDirectory => "Not a directory (os error 20)"
  | isDirectory => "Is a directory (os error 21)"
  | nameTooLong => "File name too long (os error 36)"
  | tooManyLinks => "Too many levels of symbolic links (os error 40)"
  | nulByte => "file name contained an unexpected NUL byte"

/-- What a path is walked for. -/
inductive Purpose
  /-- To use what it names. -/
  | look
  /-- To give a name to something new; a link at the end holds that name. -/
  | make
  /-- To write to a file, made if it is missing; a name that a slash follows is no file. -/
  | write
  deriving DecidableEq, Repr

/-- Where a walk arrives.  Places are lists of names from the root, through real directories. -/
inductive Arrival
  /-- At a node. -/
  | found (place : List Name) (node : Node)
  /-- At a directory that lacks the last name. -/
  | missing (directory : List Name) (name : Name)

/-- All files, and the directory in which relative paths begin. -/
structure FileSystem where
  root : Node
  cwd : List Name

namespace FileSystem

/-- Walk steps from a place.  `onLink` walks on behind a link. -/
def walkSteps (root : Node) (purpose : Purpose)
    (onLink : (place : List Name) → (steps : List Name) → Except FileError Arrival) :
    (place : List Name) → (steps : List Name) → Except FileError Arrival
  | place, [] =>
    match root.at? place with
    | some node => .ok (.found place node)
    | none => .error .notFound
  | place, step :: steps =>
    if Path.isVoid step then walkSteps root purpose onLink place steps
    else if step = [dot, dot] then walkSteps root purpose onLink place.dropLast steps
    else if purpose = .write && steps = [[]] then .error .isDirectory
    else if 255 < step.length then .error .nameTooLong
    else
      match root.at? (place ++ [step]) with
      | none => if steps = [] then .ok (.missing place step) else .error .notFound
      | some (.directory _) => walkSteps root purpose onLink (place ++ [step]) steps
      | some (.file content) =>
        if steps = [] then .ok (.found (place ++ [step]) (.file content)) else .error .notDirectory
      | some (.link target) =>
        if steps = [] && purpose = .make then .ok (.found (place ++ [step]) (.link target))
        else onLink (if target.isAbsolute then [] else place) (target.steps ++ steps)

/-- Walk steps from a place, through `links` links at most. -/
def walk (root : Node) (purpose : Purpose) :
    (links : Nat) → (place : List Name) → (steps : List Name) → Except FileError Arrival
  | 0 => walkSteps root purpose fun _ _ => .error .tooManyLinks
  | links + 1 => walkSteps root purpose (walk root purpose links)

/-- The longest path in bytes, its end mark included. -/
def maxPathLength : Nat := 4096

/-- Where a path arrives. -/
def resolve (fs : FileSystem) (purpose : Purpose) (p : Path) : Except FileError Arrival :=
  if p.bytes = [] then .error .notFound
  else if p.bytes.contains 0 then .error .nulByte
  else if maxPathLength ≤ p.bytes.length then .error .nameTooLong
  else walk fs.root purpose 40 (if p.isAbsolute then [] else fs.cwd) p.steps

/-- The node that a path names, and its place. -/
def find? (fs : FileSystem) (p : Path) : Except FileError (List Name × Node) :=
  match fs.resolve .look p with
  | .ok (.found place node) => .ok (place, node)
  | .ok (.missing _ _) => .error .notFound
  | .error e => .error e

/-- Whether the path names a file. -/
def isFile (fs : FileSystem) (p : Path) : Bool :=
  match fs.find? p with
  | .ok (_, .file _) => true
  | _ => false

/-- Whether the path names a directory. -/
def isDirectory (fs : FileSystem) (p : Path) : Bool :=
  match fs.find? p with
  | .ok (_, .directory _) => true
  | _ => false

/-- The content of the file that the path names. -/
def readFile (fs : FileSystem) (p : Path) : Except FileError Bytes :=
  match fs.find? p with
  | .ok (_, .file content) => .ok content
  | .ok (_, _) => .error .isDirectory
  | .error e => .error e

/-- The absolute path of the current directory. -/
def currentDirectory (fs : FileSystem) : Path :=
  ⟨slash :: [slash].intercalate fs.cwd⟩

end FileSystem

end LaunchLine
