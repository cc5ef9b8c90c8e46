import LaunchLine.CommandLine.Slots
import LaunchLine.Text.Quoted

/-!
# CommandLine/Scan — a command line read word by word

A command line is scanned from left to right.  A word makes a setting by itself, or together with
the next one, or it is **loose** and belongs to the test; behind the first `--` all words are loose.
A scan gathers what it takes, word by word: `take` is what a setting does to it, `takeLoose` what a
loose word does, and `takeWord` tells which it is.  A flag whose value is missing is the only error.

A list of **presets** is stricter, `takePreset`: it holds settings only, and is scanned on its own,
so that its last flag can not take a word of the command line for its value.
-/

namespace LaunchLine

/-- Why a list of words cannot be read. -/
inductive ArgumentError
  /-- The flag, as it was spelled, has no value behind it. -/
  | missingValue (word : String)
  /-- The word stands where only settings may stand. -/
  | notASetting (word : String)
  deriving DecidableEq, Repr

/-- The error as it is reported. -/
def ArgumentError.message : ArgumentError → String
  | .missingValue word => "option " ++ word ++ " expects a value"
  | .notASetting word => "config token " ++ Text.quoted word ++ " is not a wrapper option"

/-- A word that does not begin with a dash. -/
def isBare (word : String) : Bool :=
  word.toList.head? != some '-'

/-- What was gathered from the words that are read. -/
structure Scan where
  slots : Slots
  /-- The directory that its slot holds, kept beside the slots. -/
  outputDir? : Option String
  /-- Whether to keep the test's artifacts. -/
  keepsArtifacts : Bool
  /-- The first loose word that is bare. -/
  executable? : Option String
  /-- The other loose words. -/
  passedOn : List String

namespace Scan

/-- Nothing is read. -/
def empty : Scan :=
  ⟨.empty, none, false, none, []⟩

/-- Take a setting. -/
def take (scan : Scan) : Setting → Scan
  | .keepArtifacts => { scan with keepsArtifacts := true }
  | .fill .outputDir dir? =>
    { scan with outputDir? := dir?, slots := scan.slots.put .outputDir dir? }
  | .fill slot value? => { scan with slots := scan.slots.put slot value? }

/-- Take a loose word. -/
def takeLoose (scan : Scan) (word : String) : Scan :=
  if scan.executable? = none ∧ isBare word = true then { scan with executable? := some word }
  else { scan with passedOn := scan.passedOn ++ [word] }

/-- Take a flag whose value is the next word.  Beside the scan stands how many words behind the flag
are taken as well. -/
def takeFlag (scan : Scan) (flag : Flag) (word : String) (next? : Option String) :
    Except ArgumentError (Scan × Nat) :=
  match next? with
  | none => .error (.missingValue word)
  | some value =>
    if value = divider then .error (.missingValue word)
    else .ok (scan.take (flag.setting (some value)), 1)

/-- Take a word of a command line, given the next one. -/
def takeWord (scan : Scan) (word : String) (next? : Option String) :
    Except ArgumentError (Scan × Nat) :=
  match Token.ofString word with
  | .loose => .ok (scan.takeLoose word, 0)
  | .setting s => .ok (scan.take s, 0)
  | .opens flag => scan.takeFlag flag word next?

/-- Take a preset, given the next one. -/
def takePreset (scan : Scan) (word : String) (next? : Option String) :
    Except ArgumentError (Scan × Nat) :=
  match Token.ofString word with
  | .loose => .error (.notASetting word)
  | .setting s => .ok (scan.take s, 0)
  | .opens flag => scan.takeFlag flag word next?

/-- Take the words of a command line, of which the first `used` are taken already. -/
def takeArguments (scan : Scan) : (used : Nat) → List String → Except ArgumentError Scan
  | _, [] => .ok scan
  | used + 1, _ :: rest => scan.takeArguments used rest
  | 0, word :: rest =>
    if word = divider then .ok (rest.foldl takeLoose scan)
    else
      match scan.takeWord word rest.head? with
      | .error e => .error e
      | .ok (scan, used) => scan.takeArguments used rest

/-- Take the words of a list that holds settings only, of which the first `used` are taken already.
-/
def takePresets (scan : Scan) : (used : Nat) → List String → Except ArgumentError Scan
  | _, [] => .ok scan
  | used + 1, _ :: rest => scan.takePresets used rest
  | 0, word :: rest =>
    match scan.takePreset word rest.head? with
    | .error e => .error e
    | .ok (scan, used) => scan.takePresets used rest

end Scan

/-- Whether a list of words can serve as presets. -/
def checkPresets (words : List String) : Except ArgumentError Unit :=
  (Scan.empty.takePresets 0 words).map fun _ => ()

end LaunchLine
