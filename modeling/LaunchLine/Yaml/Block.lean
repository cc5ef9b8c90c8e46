import LaunchLine.Yaml.Cursor
import LaunchLine.Yaml.Token

/-!
# Yaml/Block — scalars that are blocks of lines

A header tells how deep the lines are indented, unless the first of them shows it, and what becomes
of the line breaks at the end.  A literal block keeps its line breaks; a folded one joins lines that
neither begin with a blank.
-/

namespace LaunchLine.Yaml.Block

/-- What becomes of the line breaks at the end: none is kept, one is, or all are. -/
inductive Chomping
  | strip
  | clip
  | keep
  deriving DecidableEq, Repr

/-- The header of a block: how much deeper than its surroundings the lines are indented, if it says
so, and the chomping. -/
structure Header where
  increment? : Option Nat
  chomping : Chomping

/-- The chomping that a sign asks for. -/
def chomping? (x : Char) : Option Chomping :=
  if x = '+' then some .keep else if x = '-' then some .strip else none

/-- The indentation that a digit asks for; a zero is no indentation. -/
def increment? (x : Char) : Option Nat :=
  if '1' ≤ x && x ≤ '9' then some (x.toNat - '0'.toNat) else none

/-- Read a header, its parts in either order, up to the line break behind it. -/
def header? (c : Cursor) : Option (Header × Cursor) := do
  let (header, c) ←
    match c.peek? >>= chomping? with
    | some chomping =>
      let c := c.skip 1
      if c.isAt '0' then none
      else
        match c.peek? >>= increment? with
        | some n => some (⟨some n, chomping⟩, c.skip 1)
        | none => some (⟨none, chomping⟩, c)
    | none =>
      if c.isAt '0' then none
      else
        match c.peek? >>= increment? with
        | some n =>
          let c := c.skip 1
          match c.peek? >>= chomping? with
          | some chomping => some (⟨some n, chomping⟩, c.skip 1)
          | none => some (⟨some n, .clip⟩, c)
        | none => some (⟨none, .clip⟩, c)
  let c ← c.skipToLineEnd?
  some (header, c.skipBreak)

/-- Skip indentation: blanks up to the column `indent`, or all of them if that is not known. -/
def skipIndentation (indent? : Option Nat) (c : Cursor) : Cursor :=
  let blanks := (c.takeWhile (· == ' ')).1.length
  match indent? with
  | none => c.skip blanks
  | some indent => c.skip (min blanks (indent - c.column))

/-- Whether a column lies within the indentation, which may not be known yet. -/
def isIndentation (indent? : Option Nat) (column : Nat) : Bool :=
  match indent? with
  | none => true
  | some indent => column < indent

/-- Read empty lines.  The answer tells their line breaks and the deepest indentation among them and
the line that follows.  A tab must not stand for indentation. -/
def emptyLines? (indent? : Option Nat) :
    (fuel : Nat) → (deepest : Nat) → Cursor → Option (List Char × Nat × Cursor)
  | 0, deepest, c => some ([], deepest, c)
  | fuel + 1, deepest, c =>
    let c := skipIndentation indent? c
    let deepest := max deepest c.column
    if c.isAt '\t' && isIndentation indent? c.column then none
    else
      match c.takeBreak? with
      | none => some ([], deepest, c)
      | some (x, c) =>
        (emptyLines? indent? fuel deepest c).map fun (xs, deepest, c) => (x :: xs, deepest, c)

/-- What stands between two lines: the line break of the first and the empty lines behind it.  Of a
folded block, a line break between lines that do not begin with a blank counts as one blank, or as
nothing before empty lines. -/
def joint (style : Style) (firstBreak emptyLines : List Char) (besideBlank : Bool) : List Char :=
  if style = .folded && firstBreak = ['\n'] && !besideBlank then
    if emptyLines = [] then [' '] else emptyLines
  else firstBreak ++ emptyLines

/-- Read the lines of a block from one line on, with the line break and the empty lines before it.
The answer tells the text, the line break of the last line and the empty lines behind it. -/
def lines? (style : Style) (indent : Nat) : (fuel : Nat) →
    (firstBreak emptyLines : List Char) → (afterBlank : Bool) → Cursor →
    Option (List Char × List Char × List Char × Cursor)
  | 0, firstBreak, emptyLines, _, c => some ([], firstBreak, emptyLines, c)
  | fuel + 1, firstBreak, emptyLines, afterBlank, c =>
    if c.column ≠ indent || c.rest = [] then some ([], firstBreak, emptyLines, c)
    else do
      let atBlank := c.peek?.any isSpace
      let between := joint style firstBreak emptyLines (afterBlank || atBlank)
      let (line, c) := c.takeWhile fun x => !isBreak x
      let (lineBreak, c) :=
        match c.takeBreak? with
        | some (x, c) => ([x], c)
        | none => ([], c)
      let (empty, _, c) ← emptyLines? (some indent) (c.rest.length + 1) 0 c
      let (text, lastBreak, lastEmpty, c) ← lines? style indent fuel lineBreak empty atBlank c
      some (between ++ line ++ text, lastBreak, lastEmpty, c)

/-- Read a block scalar; the cursor is at its mark, and `margin` is the first column that belongs to
the surrounding block. -/
def read? (style : Style) (margin : Nat) (c : Cursor) : Option (List Char × Cursor) := do
  let (header, c) ← header? (c.skip 1)
  let indent? := header.increment?.map fun n => margin - 1 + n
  let (empty, deepest, c) ← emptyLines? indent? (c.rest.length + 1) 0 c
  let indent := indent?.getD (max deepest (max margin 1))
  let (text, lastBreak, lastEmpty, c) ← lines? style indent (c.rest.length + 1) [] empty false c
  let ending :=
    match header.chomping with
    | .strip => []
    | .clip => lastBreak
    | .keep => lastBreak ++ lastEmpty
  some (text ++ ending, c)

end LaunchLine.Yaml.Block
