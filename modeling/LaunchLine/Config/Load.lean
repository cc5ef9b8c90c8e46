import LaunchLine.Config.Discovery
import LaunchLine.Config.FromJson
import LaunchLine.Config.FromYaml

/-!
# Config/Load — reading a config from its file

The extension of a file tells its format; a file of any other kind is not looked at and sets
nothing. A config is accepted only if its words can serve as presets, so that no config which was
loaded can make a command line fail.
-/

namespace LaunchLine

/-- A format in which a config may be written. -/
inductive ConfigFormat
  | json
  | yaml
  deriving DecidableEq, Repr

namespace ConfigFormat

/-- A byte with upper-case ASCII letters made lower-case. -/
def lowerByte (b : UInt8) : UInt8 :=
  if 0x41 ≤ b && b ≤ 0x5A then b + 0x20 else b

/-- The format of a file, by its extension in upper or lower case. -/
def ofPath? (p : Path) : Option ConfigFormat :=
  let extension := (p.extension?.getD []).map lowerByte
  if extension = Utf8.encode "json" || extension = Utf8.encode "json5" then some .json
  else if extension = Utf8.encode "yaml" || extension = Utf8.encode "yml" then some .yaml
  else none

/-- Read a config that is written in the format. -/
def config? : ConfigFormat → String → Option Config
  | json, text => Config.ofJson? text
  | yaml, text => Config.ofYaml? text

end ConfigFormat

/-- Why a file holds no config. -/
inductive ConfigFault
  /-- The text does not have its format, or a field does not hold what it should. -/
  | malformed
  /-- The words of the config cannot serve as presets. -/
  | extraArgs (error : ArgumentError)
  deriving DecidableEq, Repr

/-- Why no config could be loaded from a path. -/
inductive ConfigError
  | unreadable (path : Path) (error : FileError)
  | notText (path : Path)
  | unusable (path : Path) (fault : ConfigFault)
  deriving DecidableEq, Repr

/-- The fault as it is reported. -/
def ConfigFault.message : ConfigFault → String
  | malformed => "malformed config"
  | extraArgs error => "extraArgs: " ++ error.message

/-- The error as it is reported. -/
def ConfigError.message : ConfigError → String
  | unreadable path error => "io error at " ++ path.display ++ ": " ++ error.message
  | notText path => "io error at " ++ path.display ++ ": " ++ Utf8.notTextMessage
  | unusable path fault => "failed to parse config at " ++ path.display ++ ": " ++ fault.message

namespace Config

/-- The config that a text holds in a format. -/
def ofText (format : ConfigFormat) (text : String) : Except ConfigFault Config :=
  match format.config? text with
  | none => .error .malformed
  | some cfg =>
    match checkPresets cfg.words with
    | .error e => .error (.extraArgs e)
    | .ok () => .ok cfg

/-- The config that the content of a file holds in a format. -/
def ofContent (path : Path) (format : ConfigFormat) (content : Bytes) :
    Except ConfigError Config :=
  match Utf8.decode? content with
  | none => .error (.notText path)
  | some text =>
    match ofText format text with
    | .error fault => .error (.unusable path fault)
    | .ok cfg => .ok cfg

variable {m : Type → Type} [Monad m] [FileAccess m]

/-- Load the config at a path. -/
def loadFrom (path : Path) : m (Except ConfigError Config) :=
  match ConfigFormat.ofPath? path with
  | none => pure (.ok empty)
  | some format => do
    match ← FileAccess.readFile path with
    | .error e => return .error (.unreadable path e)
    | .ok content => return ofContent path format content

/-- Find the config and load it, together with its path; without one, nothing is set. -/
def load (explicit? : Option Bytes) (start : Path) :
    m (Except ConfigError (Config × Option Path)) := do
  match ← discover explicit? start with
  | none => return .ok (empty, none)
  | some path => return (← loadFrom path).map fun cfg => (cfg, some path)

end Config

end LaunchLine
