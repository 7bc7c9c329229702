import RecordDiff.Json.Reader
import RecordDiff.Settings.Basic

/-!
# Settings in JSON

Settings are an object with the fields as members, or an array with the fields in their order.
-/

namespace RecordDiff.Settings

/-- The string that a JSON value is. -/
def stringOfJson? : Json → Option String
  | .string s => some s
  | _ => none

/-- A field value: an array of strings or a truth value. -/
def fieldOfJson? : Json → Option FieldValue
  | .array items => (items.mapM stringOfJson?).map .names
  | .bool b => some (.flag b)
  | _ => none

/-- The settings that JSON data are. -/
def ofJson? : Json → Option Settings
  | .object members => do
    let fields ← members.mapM fun m => (fieldOfJson? m.2).map fun v => (m.1, v)
    ofFields? fields
  | .array items => do
    let values ← items.mapM fieldOfJson?
    ofPositions? values
  | _ => none

/-- The settings written in JSON. -/
def ofJsonText? (s : String) : Option Settings := (Json.read? s).bind ofJson?

end RecordDiff.Settings
