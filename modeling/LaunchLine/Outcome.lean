/-!
# Outcome — what a program leaves behind, its files apart
-/

namespace LaunchLine

/-- The code with which a program ends, and what it printed. -/
structure Outcome where
  exitCode : Nat
  stdout : String
  stderr : String
  deriving DecidableEq, Repr

end LaunchLine
