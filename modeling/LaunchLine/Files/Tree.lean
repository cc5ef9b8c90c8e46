import LaunchLine.Entries
import LaunchLine.Files.Path

/-!
# Files/Tree — files, links and directories

A directory lists its entries by name, each name once.  `at?` looks a node up along real
directories, `put` sets the node there.
-/

namespace LaunchLine

/-- The name of a directory entry. -/
abbrev Name := Bytes

/-- A file with its content, a symbolic link with what it names, or a directory with its entries. -/
inductive Node
  | file (content : Bytes)
  | link (target : Path)
  | directory (entries : List (Name × Node))

namespace Node

/-- A directory without entries. -/
def emptyDirectory : Node :=
  .directory []

/-- Whether the node is a directory. -/
def isDirectory : Node → Bool
  | directory _ => true
  | _ => false

/-- The entries of a directory; other nodes have none. -/
def entries : Node → List (Name × Node)
  | directory es => es
  | _ => []

/-- The node at the end of a list of names, through directories only. -/
def at? (node : Node) : List Name → Option Node
  | [] => some node
  | name :: names =>
    match node.entries.lookup name with
    | some child => child.at? names
    | none => none

/-- Set the node at the end of a list of names.  Directories on the way are kept, or made where
there is none. -/
def put (new : Node) : List Name → Node → Node
  | [], _ => new
  | name :: names, node =>
    let child := (node.entries.lookup name).getD emptyDirectory
    .directory (Entries.put name (new.put names child) node.entries)

/-- What was set is there. -/
theorem at?_put (new : Node) (place : List Name) (node : Node) :
    (new.put place node).at? place = some new := by
  induction place generalizing node with
  | nil => rfl
  | cons name names ih => simp [put, at?, entries, Entries.lookup_put, ih]

end Node

end LaunchLine
