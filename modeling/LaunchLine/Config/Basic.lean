import LaunchLine.CommandLine.LaunchPlan
import LaunchLine.Number.Shortest
import LaunchLine.Text.Blank

/-!
# Config/Basic — defaults for the command line

A config sets slots ahead of the command line, may hold further options word by word, and may ask
for diagnostics.  `Config.words` spells it as a command line of its own, which is read as presets.
-/

namespace LaunchLine

/-- Defaults for the command line; what is absent sets nothing. -/
structure Config where
  timeout? : Option Float
  outputDir? : Option String
  storeTestArtifacts? : Option Bool
  repeatCount? : Option UInt32
  workers? : Option UInt32
  retryFailed? : Option UInt32
  testFilter? : Option String
  runDisabledTests? : Option Bool
  /-- Options as words, read behind all the others. -/
  extraArgs? : Option (List String)
  verbose? : Option Bool
  deriving DecidableEq

namespace Config

/-- The config that sets nothing. -/
def empty : Config :=
  ⟨none, none, none, none, none, none, none, none, none, none⟩

/-- The word that fills a slot with a text, if there is one. -/
def valueWord (slot : Slot) (value? : Option String) : List String :=
  (value?.map fun value => slot.render (some value)).toList

/-- A switch, if it is on. -/
def switchWord (word : String) (switch? : Option Bool) : List String :=
  if switch? = some true then [word] else []

/-- The words that the fields other than `extraArgs?` stand for.  A text field counts without the
blanks around it, and not at all if it is blank. -/
def fieldWords (cfg : Config) : List String :=
  valueWord .timeout (cfg.timeout?.map Shortest.render) ++
  valueWord .outputDir (cfg.outputDir?.bind Text.trimmed?) ++
  switchWord Flag.storeTestArtifacts.long cfg.storeTestArtifacts? ++
  valueWord .repeatCount (cfg.repeatCount?.map fun n => n.toNat.repr) ++
  valueWord .workers (cfg.workers?.map fun n => n.toNat.repr) ++
  valueWord .retryFailed (cfg.retryFailed?.map fun n => n.toNat.repr) ++
  valueWord .testFilter (cfg.testFilter?.bind Text.trimmed?) ++
  switchWord (Slot.render .runDisabledTests none) cfg.runDisabledTests?

/-- The options given word by word. -/
def extraWords (cfg : Config) : List String :=
  cfg.extraArgs?.getD []

/-- The config as a command line of presets. -/
def words (cfg : Config) : List String :=
  cfg.fieldWords ++ cfg.extraWords

/-- The launch that a command line asks for, with the config's presets in front of it. -/
def plan (cfg : Config) (arguments : List String) : Except ArgumentError LaunchPlan :=
  planWith cfg.words arguments

end Config

end LaunchLine
