import LaunchLine.Json.Literal
import LaunchLine.Number.Decimal
import LaunchLine.Text.Utf8
import LaunchLine.Yaml.Cursor
import LaunchLine.Yaml.Token

/-!
# Yaml/Property — anchors, tags and directives

An anchor or alias is a mark and a name.  A tag is a handle and a suffix; the handle is short for
the beginning of a longer name, and a tag between angle brackets has none.  A directive stands on a
line of its own and tells the version, or what a handle is short for.
-/

namespace LaunchLine.Yaml

/-- Whether the name of an anchor may end here. -/
def endsName : Option Char → Bool
  | none => true
  | some x => isBreak x || isSpace x || ['?', ':', ',', ']', '\x7d', '%', '@', '\x60'].contains x

/-- Read the name of an anchor or an alias behind its mark. -/
def anchorName? (c : Cursor) : Option (List Char × Cursor) :=
  let (name, c) := c.takeWhile isWord
  if name = [] || !endsName c.peek? then none else some (name, c)

/-- The characters of a tag; some of them only between angle brackets. -/
def isTagChar (bracketed : Bool) (x : Char) : Bool :=
  isWord x || [';', '/', '?', ':', '@', '&', '=', '+', '$', '.', '%', '!', '~', '*', '\x27', '(',
    ')'].contains x || (bracketed && [',', '[', ']'].contains x)

/-- A byte written as a percent sign and two hexadecimal digits. -/
def escapedByte? (c : Cursor) : Option (Nat × Cursor) :=
  match c.rest with
  | '%' :: a :: b :: _ => (Json.hexToNat? [a, b]).map fun n => (n, c.skip 3)
  | _ => none

/-- Escaped bytes that continue a character. -/
def escapedFollowers? : (count : Nat) → Cursor → Option (List UInt8 × Cursor)
  | 0, c => some ([], c)
  | n + 1, c => do
    let (b, c) ← escapedByte? c
    if b / 64 ≠ 2 then none
    else
      let (bs, c) ← escapedFollowers? n c
      some (b.toUInt8 :: bs, c)

/-- A character written as escaped bytes. -/
def escapedChar? (c : Cursor) : Option (List Char × Cursor) := do
  let (b, c) ← escapedByte? c
  let followers ←
    if b < 0x80 then some 0
    else if b / 32 = 6 then some 1
    else if b / 16 = 14 then some 2
    else if b / 8 = 30 then some 3
    else none
  let (bs, c) ← escapedFollowers? followers c
  some ((Utf8.decodeLossy (b.toUInt8 :: bs)).toList, c)

/-- Read the characters of a tag. -/
def tagChars? (bracketed : Bool) : (fuel : Nat) → Cursor → Option (List Char × Cursor)
  | 0, c => some ([], c)
  | fuel + 1, c =>
    match c.peek? with
    | none => some ([], c)
    | some x =>
      if x = '%' then do
        let (ys, c) ← escapedChar? c
        let (xs, c) ← tagChars? bracketed fuel c
        some (ys ++ xs, c)
      else if isTagChar bracketed x then
        (tagChars? bracketed fuel (c.skip 1)).map fun (xs, c) => (x :: xs, c)
      else some ([], c)

/-- Read characters of a tag, one at least. -/
def tagText? (bracketed : Bool) (c : Cursor) : Option (List Char × Cursor) := do
  let (text, c) ← tagChars? bracketed c.rest.length c
  if text = [] then none else some (text, c)

/-- Read an exclamation mark, word characters, and another exclamation mark if there is one. -/
def tagHandle? (c : Cursor) : Option (List Char × Cursor) :=
  if !c.isAt '!' then none
  else
    let (word, c) := (c.skip 1).takeWhile isWord
    if c.isAt '!' then some ('!' :: word ++ ['!'], c.skip 1) else some ('!' :: word, c)

/-- Whether a handle is one with an exclamation mark at both ends. -/
def isFullHandle (handle : List Char) : Bool :=
  2 ≤ handle.length && handle.getLast? == some '!'

/-- Read a tag.  What follows a single exclamation mark belongs to the suffix; alone, the mark is a
tag without handle. -/
def tag? (inFlow : Bool) (c : Cursor) : Option (Token × Cursor) := do
  let (token, c) ←
    if c.peekAt? 1 = some '<' then do
      let (suffix, c) ← tagText? true (c.skip 2)
      if c.isAt '>' then some (Token.tag [] suffix, c.skip 1) else none
    else do
      let (handle, c) ← tagHandle? c
      if isFullHandle handle then do
        let (suffix, c) ← tagText? false c
        some (Token.tag handle suffix, c)
      else do
        let (more, c) ← tagChars? false c.rest.length c
        let suffix := handle.drop 1 ++ more
        some (if suffix = [] then Token.tag [] ['!'] else Token.tag ['!'] suffix, c)
  if (inFlow && c.isAt ',') || endsWord c.peek? then some (token, c) else none

/-- Read a part of a version: digits, nine at most. -/
def versionPart? (c : Cursor) : Option (Nat × Cursor) :=
  let (ds, c) := c.takeWhile isDigit
  if ds = [] || 9 < ds.length then none else some (digitsToNat ds, c)

/-- Read a version. -/
def version? (c : Cursor) : Option (Token × Cursor) := do
  let (major, c) ← versionPart? (c.skipWhile isSpace)
  if !c.isAt '.' then none
  else
    let (minor, c) ← versionPart? (c.skip 1)
    some (.versionDirective major minor, c)

/-- Read a handle and what it is short for. -/
def tagMeaning? (c : Cursor) : Option (Token × Cursor) := do
  let (handle, c) ← tagHandle? (c.skipWhile isSpace)
  if !(handle = ['!'] || isFullHandle handle) || !c.peek?.any isSpace then none
  else
    let (expansion, c) ← tagText? true (c.skipWhile isSpace)
    if endsWord c.peek? then some (.tagDirective handle expansion, c) else none

/-- Read a directive; the cursor is at its percent sign. -/
def directive? (c : Cursor) : Option (Token × Cursor) := do
  let (name, c) := (c.skip 1).takeWhile isWord
  if !endsWord c.peek? then none
  else
    let (token, c) ←
      if name = "YAML".toList then version? c
      else if name = "TAG".toList then tagMeaning? c
      else none
    let c ← c.skipToLineEnd?
    some (token, c.skipBreak)

end LaunchLine.Yaml
