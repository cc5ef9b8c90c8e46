import LaunchLine.Yaml.Cursor

/-!
# Yaml/Folding — line breaks inside a scalar

Between two words of a scalar stands a gap of blanks and line breaks.  On one line its blanks count;
across lines they do not, a single line break counts as a blank, and of several the first is
dropped.
-/

namespace LaunchLine.Yaml

/-- A gap between two words. -/
structure Gap where
  /-- Whether a line was left behind. -/
  broken : Bool
  blanks : List Char
  /-- The first line break, if it stands for itself and is not escaped. -/
  first : List Char
  /-- The line breaks behind the first. -/
  further : List Char

namespace Gap

/-- No gap. -/
def empty : Gap :=
  ⟨false, [], [], []⟩

/-- An escaped line break. -/
def escapedBreak : Gap :=
  ⟨true, [], [], []⟩

/-- What a gap counts as. -/
def fold (g : Gap) : List Char :=
  if g.broken then
    if g.first = ['\n'] then if g.further = [] then [' '] else g.further
    else g.first ++ g.further
  else g.blanks

/-- Read blanks and line breaks to the end of a gap.  At the beginning of a line no tab may stand
left of the column `margin`. -/
def read? (margin : Nat) : (fuel : Nat) → Gap → Cursor → Option (Gap × Cursor)
  | 0, g, c => some (g, c)
  | fuel + 1, g, c =>
    match c.takeBreak? with
    | some (x, next) =>
      let g := if g.broken then { g with further := g.further ++ [x] } else ⟨true, [], [x], []⟩
      read? margin fuel g next
    | none =>
      match c.peek? with
      | some x =>
        if !isSpace x then some (g, c)
        else if g.broken then
          if x = '\t' && c.column < margin then none else read? margin fuel g (c.skip 1)
        else read? margin fuel { g with blanks := g.blanks ++ [x] } (c.skip 1)
      | none => some (g, c)

end Gap

end LaunchLine.Yaml
