import RecordDiff.Reason

/-!
# Errors

What can go wrong when values are compared, attributes are read, settings are loaded and instances
are compared attribute by attribute. Each error says what happened; its wording is in `message`.

## Main definitions

* `CompareError`, `AttributeError`, `SettingsError`, `DiffError`
* `CompareError.message` and the like - the wording
-/

namespace RecordDiff

/-- Two values cannot be compared. -/
inductive CompareError where
  /-- A value of one kind was needed and something else was there. -/
  | incomparable (expected found : String)
  /-- A ranking has no rank for the key. -/
  | keyNotFound (key : String)
  deriving DecidableEq, Repr, Inhabited

namespace CompareError

/-- A value was needed and none was there. -/
def absent (expected : String) : CompareError := .incomparable expected "absent value"

/-- The wording of the error. -/
def message : CompareError → String
  | .incomparable expected found =>
    "Incomparable value: expected " ++ expected ++ ", found " ++ found
  | .keyNotFound key => "Key not found in ranking map: " ++ key

end CompareError

/-- An attribute cannot be read. -/
inductive AttributeError where
  /-- There is no attribute of that name. -/
  | unknown (name : String)
  /-- The attribute may not be read, for a reason. -/
  | accessDenied (name reason : String)
  /-- The instance has no document form, for a reason. -/
  | serialization (name : String) (reason : Reason)
  deriving DecidableEq, Repr, Inhabited

namespace AttributeError

/-- The wording of the error. -/
def message : AttributeError → String
  | .unknown name => "Unknown attribute: " ++ name
  | .accessDenied name reason => "Access to attribute " ++ name ++ " denied: " ++ reason
  | .serialization name reason => "Failed to serialize attribute " ++ name ++ ": " ++ reason.text

end AttributeError

/-- Settings cannot be loaded. -/
inductive SettingsError where
  /-- There is nothing at the path. -/
  | fileNotFound (path : String)
  /-- What is at the path cannot be read as text. -/
  | unreadable (path : String)
  /-- The text is no settings in JSON. -/
  | invalidJson (source : String)
  /-- The text is no settings in YAML. -/
  | invalidYaml (source : String)
  /-- The text is no settings in TOML. -/
  | invalidToml (source : String)
  /-- The text is no settings in any format. -/
  | unknownFormat (source : String)
  deriving DecidableEq, Repr, Inhabited

namespace SettingsError

/-- The wording of the error. -/
def message : SettingsError → String
  | .fileNotFound path => "File not found: " ++ path
  | .unreadable path => "Failed to read file " ++ path
  | .invalidJson source => "Invalid JSON in " ++ source
  | .invalidYaml source => "Invalid YAML in " ++ source
  | .invalidToml source => "Invalid TOML in " ++ source
  | .unknownFormat source => "Could not detect settings format for " ++ source

end SettingsError

/-- Two instances cannot be compared attribute by attribute. -/
inductive DiffError where
  /-- The call itself makes no sense. -/
  | invalidArgument (reason : String)
  /-- The two values of an attribute cannot be compared. -/
  | comparison (name : String) (cause : CompareError)
  /-- The attributes of the type cannot be found out. -/
  | discovery (cause : AttributeError)
  /-- The settings cannot be loaded. -/
  | settings (cause : SettingsError)
  deriving DecidableEq, Repr, Inhabited

namespace DiffError

/-- The wording of the error. -/
def message : DiffError → String
  | .invalidArgument reason => "Invalid argument: " ++ reason
  | .comparison name cause => "Failed to compare attribute " ++ name ++ ": " ++ cause.message
  | .discovery cause => cause.message
  | .settings cause => cause.message

/-- The comparison error behind this one, if there is one. -/
def source? : DiffError → Option CompareError
  | .comparison _ cause => some cause
  | _ => none

end DiffError

end RecordDiff
