import RecordDiff.Error
import RecordDiff.Settings.Json
import RecordDiff.Settings.Toml
import RecordDiff.Settings.Yaml

/-!
# Loading settings

Settings come from a text or from a file. The format of a file follows from its name; where no
format is known each one is tried.

## Main definitions

* `Settings.parse` - the settings of a text in a format
* `FileContent`, `Settings.load` - the settings of a file
-/

namespace RecordDiff

namespace Settings

/-- The settings of a text that comes from `source`. -/
def parseFrom (source : String) (format : Format) (s : String) : Except SettingsError Settings :=
  match format with
  | .json => match ofJsonText? s with
    | some settings => .ok settings
    | none => .error (.invalidJson source)
  | .yaml => match ofYamlText? s with
    | some settings => .ok settings
    | none => .error (.invalidYaml source)
  | .toml => match ofTomlText? s with
    | some settings => .ok settings
    | none => .error (.invalidToml source)
  | .auto => match ((ofJsonText? s).or (ofYamlText? s)).or (ofTomlText? s) with
    | some settings => .ok settings
    | none => .error (.unknownFormat source)

/-- The settings of a text. -/
def parse (format : Format) (s : String) : Except SettingsError Settings :=
  parseFrom "<string>" format s

end Settings

/-- What is found at a path. -/
inductive FileContent where
  | missing
  | directory
  | bytes (data : ByteArray)

namespace Settings

/-- The settings of what is found at a path. -/
def load (path : String) : FileContent → Except SettingsError Settings
  | .missing => .error (.fileNotFound path)
  | .directory => .error (.unreadable path)
  | .bytes data =>
    match String.fromUTF8? data with
    | some s => parseFrom path (Format.ofPath path) s
    | none => .error (.unreadable path)

end Settings

end RecordDiff
