import LaunchLine.Json.Literal
import LaunchLine.Yaml.Folding

/-!
# Yaml/Quoted — scalars in quotes

Between single quotes a doubled quote stands for one; between double quotes a backslash begins an
escape.  Line breaks are folded as in plain scalars, and one that is escaped leaves nothing behind.
-/

namespace LaunchLine.Yaml.Quoted

/-- The kind of quote. -/
inductive Quote
  | single
  | double
  deriving DecidableEq, Repr

/-- The quote itself. -/
def Quote.char : Quote → Char
  | single => '\x27'
  | double => '\"'

/-- What an escape of one letter stands for. -/
def escaped? (x : Char) : Option Char :=
  match x with
  | '0' => some '\x00'
  | 'a' => some '\x07'
  | 'b' => some '\x08'
  | 't' => some '\t'
  | '\t' => some '\t'
  | 'n' => some '\n'
  | 'v' => some '\x0b'
  | 'f' => some '\x0c'
  | 'r' => some '\r'
  | 'e' => some '\x1b'
  | ' ' => some ' '
  | '\"' => some '\"'
  | '/' => some '/'
  | '\\' => some '\\'
  | 'N' => some '\u0085'
  | '_' => some '\u00a0'
  | 'L' => some '\u2028'
  | 'P' => some '\u2029'
  | _ => none

/-- How many hexadecimal digits an escape has. -/
def hexLength? (x : Char) : Option Nat :=
  match x with
  | 'x' => some 2
  | 'u' => some 4
  | 'U' => some 8
  | _ => none

/-- The character of a code point, if there is one. -/
def charOf? (n : Nat) : Option Char :=
  if n.isValidChar then some (Char.ofNat n) else none

/-- Read an escape behind its backslash. -/
def escape? (c : Cursor) : Option (Char × Cursor) := do
  let x ← c.peek?
  match hexLength? x with
  | none => (escaped? x).map fun y => (y, c.skip 1)
  | some n =>
    let digits := (c.rest.drop 1).take n
    if digits.length < n then none
    else (Json.hexToNat? digits >>= charOf?).map fun y => (y, c.skip (n + 1))

/-- Read characters up to a blank, a line break or the closing quote.  The last part of the answer
tells whether an escaped line break ended the word. -/
def word? (q : Quote) : (fuel : Nat) → Cursor → Option (List Char × Bool × Cursor)
  | 0, c => some ([], false, c)
  | fuel + 1, c =>
    match c.peek? with
    | none => some ([], false, c)
    | some x =>
      if isSpace x || isBreak x then some ([], false, c)
      else if x = q.char then
        if q = .single && c.peekAt? 1 = some x then
          (word? q fuel (c.skip 2)).map fun (xs, e, c) => (x :: xs, e, c)
        else some ([], false, c)
      else if q = .double && x = '\\' then
        if (c.peekAt? 1).any isBreak then some ([], true, (c.skip 1).skipBreak)
        else do
          let (y, c) ← escape? (c.skip 1)
          (word? q fuel c).map fun (xs, e, c) => (y :: xs, e, c)
      else (word? q fuel (c.skip 1)).map fun (xs, e, c) => (x :: xs, e, c)

/-- Read words up to the closing quote. -/
def words? (q : Quote) : (fuel : Nat) → Cursor → Option (List Char × Cursor)
  | 0, _ => none
  | fuel + 1, c =>
    if c.isAtDocumentMark || c.rest = [] then none
    else do
      let (word, escapedBreak, c) ← word? q c.rest.length c
      if c.isAt q.char then some (word, c.skip 1)
      else
        let gap := if escapedBreak then Gap.escapedBreak else .empty
        let (gap, c) ← gap.read? 0 (c.rest.length + 1) c
        let (text, c) ← words? q fuel c
        some (word ++ gap.fold ++ text, c)

/-- Read a scalar in quotes; the cursor is at the opening one. -/
def read? (q : Quote) (c : Cursor) : Option (List Char × Cursor) :=
  words? q (c.rest.length + 1) (c.skip 1)

end LaunchLine.Yaml.Quoted
