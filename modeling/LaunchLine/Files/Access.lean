import LaunchLine.Files.Change

/-!
# Files/Access — what a program may do with files

A program that works in any monad with `FileAccess` can be run on the files of the machine, and on a
`FileSystem` that is a value, where it is an ordinary function.
-/

namespace LaunchLine

/-- A monad in which files can be looked up, read, made and written. -/
class FileAccess (m : Type → Type) where
  isFile : Path → m Bool
  readFile : Path → m (Except FileError Bytes)
  createDirectories : Path → m (Except FileError Unit)
  writeFile : Path → Bytes → m (Except FileError Unit)

instance : FileAccess (StateM FileSystem) where
  isFile p := do return (← get).isFile p
  readFile p := do return (← get).readFile p
  createDirectories := FileSystem.createDirectories
  writeFile := FileSystem.writeFile

end LaunchLine
