import LaunchLine.Yaml.Folding

/-!
# Yaml/Plain — scalars without quotes

A plain scalar goes on over blanks and lines until something stands there that cannot belong to it:
a comment, a colon that ends a key, in a flow collection one of its marks, in a block a line that is
not indented far enough.
-/

namespace LaunchLine.Yaml.Plain

/-- The marks of flow collections. -/
def isFlowMark (x : Char) : Bool :=
  x == ',' || x == '[' || x == ']' || x == '\x7b' || x == '\x7d'

/-- Whether a plain scalar cannot go on here. -/
def ends (inFlow : Bool) (c : Cursor) : Bool :=
  match c.peek? with
  | none => true
  | some x =>
    isSpace x || isBreak x || (x == ':' && endsWord (c.peekAt? 1)) || (inFlow && isFlowMark x)

/-- Whether a colon stands here that a flow collection does not allow. -/
def isStrayColon (inFlow : Bool) (c : Cursor) : Bool :=
  inFlow && c.isAt ':' && (c.peekAt? 1).any fun x => isFlowMark x || x == '?'

/-- Read characters up to the end of a word. -/
def word? (inFlow : Bool) : (fuel : Nat) → Cursor → Option (List Char × Cursor)
  | 0, c => some ([], c)
  | fuel + 1, c =>
    if isStrayColon inFlow c then none
    else if ends inFlow c then some ([], c)
    else
      match c.peek? with
      | none => some ([], c)
      | some x => (word? inFlow fuel (c.skip 1)).map fun (xs, c) => (x :: xs, c)

/-- Read words behind a gap.  The answer tells the text, where it ends together with the gap behind
it, and whether a line was left behind in that gap. -/
def words? (inFlow : Bool) (margin : Nat) :
    (fuel : Nat) → Gap → Cursor → Option (List Char × Bool × Cursor)
  | 0, _, _ => none
  | fuel + 1, gap, c =>
    if c.isAtDocumentMark || c.isAt '#' then some ([], gap.broken, c)
    else do
      let (word, c) ← word? inFlow c.rest.length c
      let gap := if word = [] then gap else .empty
      if !(c.peek?.any fun x => isSpace x || isBreak x) then some (word, gap.broken, c)
      else
        let (next, c) ← gap.read? margin (c.rest.length + 1) c
        if !inFlow && c.column < margin then some (word, next.broken, c)
        else
          let (text, broken, c) ← words? inFlow margin fuel next c
          some (word ++ (if text = [] then [] else next.fold ++ text), broken, c)

/-- Read a plain scalar; `margin` is the first column that belongs to the block. -/
def read? (inFlow : Bool) (margin : Nat) (c : Cursor) : Option (List Char × Bool × Cursor) :=
  words? inFlow margin (c.rest.length + 1) .empty c

end LaunchLine.Yaml.Plain
