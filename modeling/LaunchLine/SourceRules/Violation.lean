import LaunchLine.Files.Path
import LaunchLine.Text.Blank
import LaunchLine.Text.Lines

/-!
# SourceRules/Violation — what a source file must not do

A file must not be too long, and library code must not make calls that panic.  `panicsIn`
finds such calls line by line: comment lines are passed over, and everything from a line that opens
the tests on is exempt.
-/

namespace LaunchLine

/-- A call that panics instead of handing an error on. -/
inductive Panic
  | unwrap
  | expect
  deriving DecidableEq, Repr

namespace Panic

/-- The calls, in the order in which they are reported for one line. -/
def all : List Panic := [unwrap, expect]

/-- How the call is written. -/
def text : Panic → String
  | unwrap => ".unwrap()"
  | expect => ".expect("

end Panic

/-- A breach of a rule. -/
inductive Violation
  | overlong (path : Path) (lineCount : Nat)
  | panicking (path : Path) (line : Nat) (call : Panic)
  deriving DecidableEq, Repr

/-- The violation as it is reported. -/
def Violation.message : Violation → String
  | overlong path lineCount => lineCount.repr ++ " lines -> " ++ path.display
  | panicking path line call => path.display ++ ":" ++ line.repr ++ ": " ++ call.text

/-- Whether one list of characters occurs in another. -/
def occursIn (part : List Char) : List Char → Bool
  | [] => part.isEmpty
  | c :: cs => part.isPrefixOf (c :: cs) || occursIn part cs

theorem occursIn_eq_true_iff {part cs : List Char} : occursIn part cs = true ↔ part <:+: cs := by
  induction cs with
  | nil => simp [occursIn]
  | cons c cs ih => simp [occursIn, ih, List.infix_cons_iff]

/-- Whether tests begin with the line. -/
def opensTests (line : String) : Bool :=
  Text.trim line == "#[cfg(test)]"

/-- Whether the line is a comment from its first character on. -/
def isComment (line : String) : Bool :=
  "//".toList.isPrefixOf (Text.trimStart line).toList

/-- The panicking calls on a line. -/
def panicsOn (line : String) : List Panic :=
  if isComment line then [] else Panic.all.filter fun call =>
    occursIn call.text.toList line.toList

/-- The panicking calls on lines that are numbered from `n` on. -/
def panicsFrom (path : Path) : (n : Nat) → (lines : List String) → List Violation
  | _, [] => []
  | n, line :: rest =>
    (panicsOn line).map (Violation.panicking path n) ++ panicsFrom path (n + 1) rest

/-- The panicking calls in a source text, up to its tests. -/
def panicsIn (path : Path) (source : String) : List Violation :=
  panicsFrom path 1 ((Text.lines source).takeWhile fun line => !opensTests line)

end LaunchLine
