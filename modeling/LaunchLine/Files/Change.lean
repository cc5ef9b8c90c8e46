import LaunchLine.Files.Lookup

/-!
# Files/Change — making directories, writing files

`createDirectories` makes a directory and those above it that are missing; `writeFile` replaces the
content of a file or makes one, but no directory for it.
-/

namespace LaunchLine.FileSystem

/-- Make one directory, in a directory that is there. -/
def createDirectory (fs : FileSystem) (p : Path) : Except FileError FileSystem :=
  let bare : Path := ⟨(p.bytes.reverse.dropWhile (· = slash)).reverse⟩
  if p.bytes ≠ [] && bare.bytes = [] then .error .alreadyExists
  else if bare.steps.getLast? = some [dot] || bare.steps.getLast? = some [dot, dot] then
    match fs.resolve .make bare with
    | .ok _ => .error .alreadyExists
    | .error e => .error e
  else
    match fs.resolve .make bare with
    | .ok (.missing directory name) =>
      .ok { fs with root := .put .emptyDirectory (directory ++ [name]) fs.root }
    | .ok (.found _ _) => .error .alreadyExists
    | .error e => .error e

/-- Make a directory, given as a path and the paths above it, nearest first. -/
def createAlong : List Path → StateM FileSystem (Except FileError Unit)
  | [] => pure (.error .notFound)
  | p :: above => do
    if p.bytes = [] then return .ok ()
    match (← get).createDirectory p with
    | .ok fs =>
      set fs
      return .ok ()
    | .error .notFound =>
      match ← createAlong above with
      | .error e => return .error e
      | .ok () =>
        match (← get).createDirectory p with
        | .ok fs =>
          set fs
          return .ok ()
        | .error e => return if (← get).isDirectory p then .ok () else .error e
    | .error e => return if (← get).isDirectory p then .ok () else .error e

/-- Make a directory and those above it that are missing.  One that is there already is no error. -/
def createDirectories (p : Path) : StateM FileSystem (Except FileError Unit) :=
  createAlong p.ancestors

/-- Set the content of a file, which is made if its directory lacks it. -/
def writeFile (p : Path) (content : Bytes) : StateM FileSystem (Except FileError Unit) := do
  let fs ← get
  match fs.resolve .write p with
  | .ok (.found _ (.directory _)) => return .error .isDirectory
  | .ok (.found place _) =>
    set { fs with root := .put (.file content) place fs.root }
    return .ok ()
  | .ok (.missing directory name) =>
    set { fs with root := .put (.file content) (directory ++ [name]) fs.root }
    return .ok ()
  | .error e => return .error e

/-- Make a symbolic link, in a directory that is there. -/
def createLink (p target : Path) : StateM FileSystem (Except FileError Unit) := do
  let fs ← get
  match fs.resolve .make p with
  | .ok (.found _ _) => return .error .alreadyExists
  | .ok (.missing directory name) =>
    set { fs with root := .put (.link target) (directory ++ [name]) fs.root }
    return .ok ()
  | .error e => return .error e

end LaunchLine.FileSystem
