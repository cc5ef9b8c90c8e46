/-!
# Text/Lines — a text as a list of lines

A line ends at a line feed, which a carriage return may precede; what follows the last line feed is
a line of its own only if there is something.  `rawLines` cuts a text into lines with their endings;
`lines` drops the endings.
-/

namespace LaunchLine.Text

/-- Put a character in front of a cut text: a line feed ends a line of its own. -/
def consRaw (c : Char) : List (List Char) → List (List Char)
  | [] => [[c]]
  | line :: rest => if c = '\n' then [c] :: line :: rest else (c :: line) :: rest

/-- The lines of a text, each with its ending. -/
def rawLines (text : List Char) : List (List Char) :=
  text.foldr consRaw []

/-- A raw line without its ending: the final line feed, and a carriage return right before it. -/
def dropEnding (line : List Char) : List Char :=
  match line.reverse with
  | '\n' :: '\r' :: rest => rest.reverse
  | '\n' :: rest => rest.reverse
  | _ => line

/-- The lines of a text, without their endings. -/
def lines (text : String) : List String :=
  (rawLines text.toList).map fun line => String.ofList (dropEnding line)

/-- The number of lines of a text. -/
def lineCount (text : String) : Nat :=
  (rawLines text.toList).length

@[simp] theorem length_lines (text : String) : (lines text).length = lineCount text := by
  simp [lines, lineCount]

end LaunchLine.Text
