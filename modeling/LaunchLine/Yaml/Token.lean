/-!
# Yaml/Token — the words of a YAML text

Indentation shows in the tokens: a block collection is opened by a token of its own and closed by
`blockEnd`.  Anchors are numbered; an alias carries the number of the anchor it means.
-/

namespace LaunchLine.Yaml

/-- How a scalar is written. -/
inductive Style
  | plain
  | quoted
  | literal
  | folded
  deriving DecidableEq, Repr

/-- A token. -/
inductive Token
  | versionDirective (major minor : Nat)
  /-- Says what a tag handle stands for. -/
  | tagDirective (handle expansion : List Char)
  | documentStart
  | documentEnd
  | blockSequenceStart
  | blockMappingStart
  | blockEnd
  | flowSequenceStart
  | flowSequenceEnd
  | flowMappingStart
  | flowMappingEnd
  | blockEntry
  | flowEntry
  | key
  | value
  | aliasTo (id : Nat)
  | anchor (id : Nat)
  | tag (handle suffix : List Char)
  | scalar (style : Style) (text : List Char)
  deriving DecidableEq, Repr

end LaunchLine.Yaml
