/-!
# Yaml/Cursor — a place in a YAML text

A cursor knows what is left of the text, and how many bytes, lines and columns are behind.  Bytes
are those of the text in UTF-8; a column is a character.  The end of the text is the absence of a
character.
-/

namespace LaunchLine.Yaml

/-- The characters that may stand in a YAML text. -/
def isAllowed (c : Char) : Bool :=
  c == '\t' || c == '\n' || c == '\r' || (' ' ≤ c && c ≤ '~') || c == '\u0085' ||
    ('\u00a0' ≤ c && c ≤ '\ufffd') || 0x10000 ≤ c.toNat

/-- A blank or a tab. -/
def isSpace (c : Char) : Bool :=
  c == ' ' || c == '\t'

/-- A character that ends a line. -/
def isBreak (c : Char) : Bool :=
  c == '\n' || c == '\r' || c == '\u0085' || c == '\u2028' || c == '\u2029'

/-- A character of a plain word: a letter, a digit, an underscore or a dash, all ASCII. -/
def isWord (c : Char) : Bool :=
  c.isAlphanum || c == '_' || c == '-'

/-- The end of the text or of a line. -/
def endsLine : Option Char → Bool
  | none => true
  | some c => isBreak c

/-- The end of the text or of a line, or a blank. -/
def endsWord : Option Char → Bool
  | none => true
  | some c => isBreak c || isSpace c

/-- A place in a text. -/
structure Cursor where
  rest : List Char
  offset : Nat
  line : Nat
  column : Nat
  deriving Repr

namespace Cursor

/-- The beginning of a text. -/
def start (text : List Char) : Cursor :=
  ⟨text, 0, 0, 0⟩

variable (c : Cursor)

/-- The character here. -/
def peek? : Option Char :=
  c.rest.head?

/-- The character some places further on. -/
def peekAt? (n : Nat) : Option Char :=
  c.rest[n]?

/-- Whether a character is here. -/
def isAt (x : Char) : Bool :=
  c.peek? == some x

/-- The place behind some characters, which do not end a line. -/
def skip (n : Nat) : Cursor :=
  ⟨c.rest.drop n, (c.rest.take n).foldl (· + ·.utf8Size) c.offset, c.line, c.column + n⟩

/-- The line break here as it counts in a scalar, and the place behind it.  A carriage return, a
line feed, both together and a next-line character count as a line feed. -/
def takeBreak? : Option (Char × Cursor) :=
  match c.rest with
  | '\r' :: '\n' :: rest => some ('\n', ⟨rest, c.offset + 2, c.line + 1, 0⟩)
  | x :: rest =>
    if isBreak x then
      some (if x == '\u2028' || x == '\u2029' then x else '\n',
        ⟨rest, c.offset + x.utf8Size, c.line + 1, 0⟩)
    else none
  | [] => none

/-- The characters from here on that satisfy a test, and the place behind them. -/
def takeWhile (p : Char → Bool) : List Char × Cursor :=
  let taken := c.rest.takeWhile p
  (taken, c.skip taken.length)

/-- The place behind the characters from here on that satisfy a test. -/
def skipWhile (p : Char → Bool) : Cursor :=
  (c.takeWhile p).2

/-- The place behind the line break here; without one, this place. -/
def skipBreak : Cursor :=
  match c.takeBreak? with
  | some (_, next) => next
  | none => c

/-- The place where the line ends, if nothing but blanks and a comment stands before it. -/
def skipToLineEnd? : Option Cursor :=
  let c := c.skipWhile isSpace
  let c := if c.isAt '#' then c.skipWhile fun x => !isBreak x else c
  if endsLine c.peek? then some c else none

/-- Whether a mark of three equal characters stands alone at the beginning of a line. -/
def isAtMark (x : Char) : Bool :=
  c.column == 0 && c.rest.take 3 == [x, x, x] && endsWord (c.peekAt? 3)

/-- Whether the line begins or ends a document. -/
def isAtDocumentMark : Bool :=
  c.isAtMark '-' || c.isAtMark '.'

end Cursor

end LaunchLine.Yaml
