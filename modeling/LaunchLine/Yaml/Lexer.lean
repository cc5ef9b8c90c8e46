import LaunchLine.Yaml.Block
import LaunchLine.Yaml.Plain
import LaunchLine.Yaml.Property
import LaunchLine.Yaml.Quoted

/-!
# Yaml/Lexer — a YAML text as tokens

The lexer goes through the text once and keeps two things in mind.  **Indentation**: the columns of
the open block collections; a token further to the left closes some of them.  **Possible keys**:
where a scalar, an alias or a flow collection may turn out to be a key, on each level of flow
collections; if a colon follows on the same line, the tokens that say so are put in front of it.
-/

namespace LaunchLine.Yaml

/-- A place where a key may have begun. -/
structure PossibleKey where
  /-- Whether nothing but a key can stand there. -/
  required : Bool
  /-- How many tokens come before it. -/
  tokensBefore : Nat
  start : Cursor

/-- The state of the lexer. -/
structure Lexer where
  cursor : Cursor
  /-- The tokens so far, the last one first. -/
  tokens : List Token
  /-- The columns of the open block collections, each plus one, the innermost first. -/
  margins : List Nat
  /-- The possible key of each level of flow collections, the innermost first, and of the block
  around them. -/
  keys : List (Option PossibleKey)
  /-- Whether a key may begin here. -/
  keyAllowed : Bool
  /-- The names of the anchors with their numbers, the latest first. -/
  anchors : List (List Char × Nat)

namespace Lexer

/-- The state at the beginning of a text. -/
def start (text : List Char) : Lexer where
  cursor := .start text
  tokens := []
  margins := []
  keys := [none]
  keyAllowed := true
  anchors := []

variable (l : Lexer)

/-- Whether a flow collection is open. -/
def inFlow : Bool :=
  1 < l.keys.length

/-- The first column that belongs to the innermost block collection. -/
def margin : Nat :=
  l.margins.headD 0

/-- One more token, and the place behind it. -/
def pushAt (token : Token) (cursor : Cursor) : Lexer :=
  { l with tokens := token :: l.tokens, cursor }

/-- One more token behind the first `before` ones. -/
def insert (before : Nat) (token : Token) : Lexer :=
  let behind := l.tokens.length - before
  { l with tokens := l.tokens.take behind ++ token :: l.tokens.drop behind }

/-- Open a block collection at a column, unless one is open there or a flow collection is. -/
def openBlock (column before : Nat) (token : Token) : Lexer :=
  if l.inFlow || column < l.margin then l
  else { l.insert before token with margins := (column + 1) :: l.margins }

/-- Close the block collections to the right of a column; `margin` is the column plus one. -/
def closeBlocks (margin : Nat) : Lexer :=
  if l.inFlow then l
  else
    let closed := l.margins.takeWhile (margin < ·)
    { l with
      margins := l.margins.drop closed.length
      tokens := List.replicate closed.length .blockEnd ++ l.tokens }

/-- The possible keys that are still possible here: a key does not go on over lines, nor over more
than 1024 bytes. -/
def forgetStaleKeys? : Option Lexer :=
  let isStale (k : PossibleKey) : Bool :=
    k.start.line < l.cursor.line || k.start.offset + 1024 < l.cursor.offset
  if l.keys.any fun k? => k?.any fun k => k.required && isStale k then none
  else some { l with keys := l.keys.map fun k? => k?.filter fun k => !isStale k }

/-- Give up the possible key of the innermost level. -/
def dropKey? : Option Lexer :=
  match l.keys with
  | [] => some l
  | k? :: keys => if k?.any (·.required) then none else some { l with keys := none :: keys }

/-- Keep in mind that a key may begin here. -/
def keepKey? : Option Lexer :=
  if !l.keyAllowed then some l
  else do
    let l ← l.dropKey?
    let key : PossibleKey :=
      { required := !l.inFlow && l.margin == l.cursor.column + 1
        tokensBefore := l.tokens.length
        start := l.cursor }
    some { l with keys := some key :: l.keys.drop 1 }

/-- Go to the next token, over blanks, comments and line breaks.  Behind a line break a key may
begin in a block; tabs may not stand where one may begin. -/
def skipGap : (fuel : Nat) → Lexer → Lexer
  | 0, l => l
  | fuel + 1, l =>
    let c := l.cursor
    let c := if c.column = 0 && c.isAt '\ufeff' then c.skip 1 else c
    let c := c.skipWhile fun x => x == ' ' || ((l.inFlow || !l.keyAllowed) && x == '\t')
    let c := if c.isAt '#' then c.skipWhile fun x => !isBreak x else c
    match c.takeBreak? with
    | some (_, next) =>
      skipGap fuel { l with cursor := next, keyAllowed := l.keyAllowed || !l.inFlow }
    | none => { l with cursor := c }

/-- A token of one character with which a flow collection begins. -/
def openFlow? (token : Token) : Option Lexer := do
  let l ← l.keepKey?
  some { l.pushAt token (l.cursor.skip 1) with keys := none :: l.keys, keyAllowed := true }

/-- A token of one character with which a flow collection ends. -/
def closeFlow? (token : Token) : Option Lexer := do
  let l ← l.dropKey?
  let keys := if l.inFlow then l.keys.drop 1 else l.keys
  some { l.pushAt token (l.cursor.skip 1) with keys, keyAllowed := false }

/-- The comma between the items of a flow collection. -/
def flowEntry? : Option Lexer := do
  let l ← l.dropKey?
  some { l.pushAt .flowEntry (l.cursor.skip 1) with keyAllowed := true }

/-- The dash before an item of a block sequence. -/
def blockEntry? : Option Lexer := do
  if !l.inFlow && !l.keyAllowed then none
  else
    let l := l.openBlock l.cursor.column l.tokens.length .blockSequenceStart
    let l ← l.dropKey?
    some { l.pushAt .blockEntry (l.cursor.skip 1) with keyAllowed := true }

/-- The question mark before a key. -/
def explicitKey? : Option Lexer := do
  if !l.inFlow && !l.keyAllowed then none
  else
    let l := l.openBlock l.cursor.column l.tokens.length .blockMappingStart
    let l ← l.dropKey?
    some { l.pushAt .key (l.cursor.skip 1) with keyAllowed := !l.inFlow }

/-- The colon before a value.  If a key may have begun on this line, it did. -/
def value? : Option Lexer :=
  match l.keys with
  | some key :: keys =>
    let l := l.insert key.tokensBefore .key
    let l := l.openBlock key.start.column key.tokensBefore .blockMappingStart
    some { l.pushAt .value (l.cursor.skip 1) with keys := none :: keys, keyAllowed := false }
  | _ =>
    if !l.inFlow && !l.keyAllowed then none
    else
      let l := l.openBlock l.cursor.column l.tokens.length .blockMappingStart
      some { l.pushAt .value (l.cursor.skip 1) with keyAllowed := !l.inFlow }

/-- An anchor.  Its number is the count of different names so far, also if its name is not new. -/
def anchor? : Option Lexer := do
  let l ← l.keepKey?
  let (name, c) ← anchorName? (l.cursor.skip 1)
  let id := l.anchors.length
  let anchors := (name, id) :: l.anchors.filter fun entry => entry.1 ≠ name
  some { l.pushAt (.anchor id) c with anchors, keyAllowed := false }

/-- An alias for an anchor that came before. -/
def aliasTo? : Option Lexer := do
  let l ← l.keepKey?
  let (name, c) ← anchorName? (l.cursor.skip 1)
  let id ← l.anchors.lookup name
  some { l.pushAt (.aliasTo id) c with keyAllowed := false }

/-- A tag. -/
def readTag? : Option Lexer := do
  let l ← l.keepKey?
  let (token, c) ← tag? l.inFlow l.cursor
  some { l.pushAt token c with keyAllowed := false }

/-- A block scalar. -/
def blockScalar? (style : Style) : Option Lexer := do
  let l ← l.dropKey?
  let (text, c) ← Block.read? style l.margin l.cursor
  some { l.pushAt (.scalar style text) c with keyAllowed := true }

/-- A scalar in quotes. -/
def quotedScalar? (quote : Quoted.Quote) : Option Lexer := do
  let l ← l.keepKey?
  let (text, c) ← Quoted.read? quote l.cursor
  some { l.pushAt (.scalar .quoted text) c with keyAllowed := false }

/-- A plain scalar.  A key may begin behind it if it left its line. -/
def plainScalar? : Option Lexer := do
  let l ← l.keepKey?
  let (text, broken, c) ← Plain.read? l.inFlow l.margin l.cursor
  some { l.pushAt (.scalar .plain text) c with keyAllowed := broken }

/-- What stands on the left edge of a text: all blocks end there, and no key begins. -/
def atEdge? : Option Lexer := do
  let l ← (l.closeBlocks 0).dropKey?
  some { l with keyAllowed := false }

/-- A directive. -/
def readDirective? : Option Lexer := do
  let l ← l.atEdge?
  let (token, c) ← directive? l.cursor
  some (l.pushAt token c)

/-- A mark that begins or ends a document. -/
def documentMark? (token : Token) : Option Lexer := do
  let l ← l.atEdge?
  some (l.pushAt token (l.cursor.skip 3))

/-- Whether a character may begin a plain scalar, given the one behind it. -/
def beginsPlain (inFlow : Bool) (x : Char) (next? : Option Char) : Bool :=
  if x = '-' then !next?.any isSpace
  else if x = '?' || x = ':' then !inFlow && !endsWord next?
  else !(isSpace x || isBreak x || [',', '[', ']', '\x7b', '\x7d', '#', '&', '*', '!', '|', '>',
    '\x27', '\"', '%', '@', '\x60'].contains x)

/-- Read the token at a character. -/
def readAt? (x : Char) : Option Lexer :=
  let c := l.cursor
  let next? := c.peekAt? 1
  if c.column = 0 && x = '%' then l.readDirective?
  else if c.isAtMark '-' then l.documentMark? .documentStart
  else if c.isAtMark '.' then l.documentMark? .documentEnd
  else if x = '[' then l.openFlow? .flowSequenceStart
  else if x = '\x7b' then l.openFlow? .flowMappingStart
  else if x = ']' then l.closeFlow? .flowSequenceEnd
  else if x = '\x7d' then l.closeFlow? .flowMappingEnd
  else if x = ',' then l.flowEntry?
  else if x = '-' && endsWord next? then l.blockEntry?
  else if x = '?' && (l.inFlow || endsWord next?) then l.explicitKey?
  else if x = ':' && (l.inFlow || endsWord next?) then l.value?
  else if x = '*' then l.aliasTo?
  else if x = '&' then l.anchor?
  else if x = '!' then l.readTag?
  else if x = '|' && !l.inFlow then l.blockScalar? .literal
  else if x = '>' && !l.inFlow then l.blockScalar? .folded
  else if x = '\x27' then l.quotedScalar? .single
  else if x = '\"' then l.quotedScalar? .double
  else if beginsPlain l.inFlow x next? then l.plainScalar?
  else none

/-- Read tokens to the end of the text. -/
def run? : (fuel : Nat) → Lexer → Option Lexer
  | 0, _ => none
  | fuel + 1, l => do
    let l ← (l.skipGap (l.cursor.rest.length + 1)).forgetStaleKeys?
    let l := l.closeBlocks (l.cursor.column + 1)
    match l.cursor.peek? with
    | none => l.atEdge?
    | some x => run? fuel (← l.readAt? x)

end Lexer

/-- The tokens of a text.  Each token but the last takes a character at least. -/
def tokens? (text : String) : Option (List Token) :=
  let chars := text.toList
  if chars.all isAllowed then
    (Lexer.run? (chars.length + 1) (.start chars)).map fun l => l.tokens.reverse
  else none

end LaunchLine.Yaml
