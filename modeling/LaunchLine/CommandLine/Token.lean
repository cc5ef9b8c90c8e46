import LaunchLine.CommandLine.Flag

/-!
# CommandLine/Token — what one word of a command line says

A token that is exactly a flag's name names the flag; a long name of a flag that takes a value,
followed by an equals sign, names the flag and gives the value.  Nothing else is recognised: not a
short name with something attached to it, nor a switch with a value.  `Token.ofString` turns this
into what the reader of a command line needs to know: a whole setting, a flag that waits for its
value, or a word that is not the wrapper's.
-/

namespace LaunchLine

/-- The word behind which nothing is the wrapper's. -/
def divider : String := "--"

/-- Something the wrapper was told: a value for a slot (none for a switch), or to keep the test's
artifacts. -/
inductive Setting
  | fill (slot : Slot) (value? : Option String)
  | keepArtifacts
  deriving DecidableEq, Repr

/-- The setting that a flag makes, given its value. -/
def Flag.setting (flag : Flag) (value? : Option String) : Setting :=
  match flag.effect with
  | .fill slot => .fill slot value?
  | .keepArtifacts => .keepArtifacts

/-- Cut a word at its first equals sign. -/
def cutAtEquals? (word : String) : Option (String × String) :=
  match word.toList.span (· ≠ '=') with
  | (name, _ :: value) => some (String.ofList name, String.ofList value)
  | (_, []) => none

/-- The flag that a word names, and the value that the word gives it. -/
def recognize? (word : String) : Option (Flag × Option String) :=
  match Flag.named? word with
  | some flag => some (flag, none)
  | none =>
    match cutAtEquals? word with
    | none => none
    | some (name, value) =>
      match Flag.longNamed? name with
      | none => none
      | some flag => if flag.takesValue then some (flag, some value) else none

/-- What a word is where a flag may stand. -/
inductive Token
  /-- The word makes a setting by itself. -/
  | setting (setting : Setting)
  /-- The word names a flag, whose value is the next word. -/
  | opens (flag : Flag)
  /-- The word is not the wrapper's. -/
  | loose
  deriving DecidableEq, Repr

/-- What a word is where a flag may stand. -/
def Token.ofString (word : String) : Token :=
  match recognize? word with
  | none => .loose
  | some (flag, some value) => .setting (flag.setting (some value))
  | some (flag, none) => if flag.takesValue then .opens flag else .setting (flag.setting none)

end LaunchLine
