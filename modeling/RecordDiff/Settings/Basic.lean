import RecordDiff.Json.Basic
import RecordDiff.Text.Case

/-!
# Settings

Settings say which attributes a differ compares and where absent values stand. They are written as
three fields, each of which may be left out: `include` and `exclude` with a list of names, and
`nulls_last` with a truth value.

## Main definitions

* `Settings` - the three fields
* `Settings.Field` - a field as a text gives it
* `Settings.ofFields?` - the settings that fields make up
* `Settings.Format` - the formats in which settings are written
-/

namespace RecordDiff

/-- Names to include, names to exclude, and whether absent values come last. -/
structure Settings where
  included : List String
  excluded : List String
  nullsLast : Bool
  deriving DecidableEq, Repr, Inhabited

namespace Settings

/-- The settings of a text that says nothing. -/
def default : Settings := ⟨[], [], false⟩

/-- The settings as JSON data. -/
def toJson (s : Settings) : Json :=
  .object [("include", .array (s.included.map .string)),
    ("exclude", .array (s.excluded.map .string)), ("nulls_last", .bool s.nullsLast)]

/-! ### Fields -/

/-- What a field can hold. -/
inductive FieldValue where
  | names (names : List String)
  | flag (b : Bool)
  deriving DecidableEq, Repr

/-- The fields that there are. -/
inductive Field where
  | included
  | excluded
  | nullsLast
  deriving DecidableEq, Repr

/-- The fields in their order. -/
def Field.all : List Field := [.included, .excluded, .nullsLast]

/-- The written name of a field. -/
def Field.name : Field → String
  | .included => "include"
  | .excluded => "exclude"
  | .nullsLast => "nulls_last"

/-- The field of a written name. -/
def Field.ofName? (name : String) : Option Field := Field.all.find? fun f => f.name = name

/-- The settings with a field set, if the field can hold the value. -/
def setField? (s : Settings) : Field → FieldValue → Option Settings
  | .included, .names names => some { s with included := names }
  | .excluded, .names names => some { s with excluded := names }
  | .nullsLast, .flag b => some { s with nullsLast := b }
  | _, _ => none

/-- The settings that assignments make up, each of which sets its field. -/
def ofAssignments? (assignments : List (Field × FieldValue)) : Option Settings :=
  assignments.foldlM (fun s a => s.setField? a.1 a.2) default

/-- The settings that written fields make up: every name has to be known, and none may be there
twice. -/
def ofFields? (fields : List (String × FieldValue)) : Option Settings := do
  let assignments ← fields.mapM fun f => (Field.ofName? f.1).map fun field => (field, f.2)
  if decide (assignments.map (·.1)).Nodup then ofAssignments? assignments else none

/-- The settings whose fields have the values of a list, in the order of the fields. Values at the
end may be missing, and there may be none too many. -/
def ofPositions? (values : List FieldValue) : Option Settings :=
  if values.length ≤ Field.all.length then ofAssignments? (Field.all.zip values) else none

/-! ### Formats -/

/-- The formats in which settings are written. With `auto` each of the others is tried. -/
inductive Format where
  | json
  | yaml
  | toml
  | auto
  deriving DecidableEq, Repr, Inhabited

/-- The name of a format. -/
def Format.name : Format → String
  | .json => "json"
  | .yaml => "yaml"
  | .toml => "toml"
  | .auto => "auto"

/-- The format of a name. -/
def Format.ofName? (name : String) : Option Format :=
  [.json, .yaml, .toml, .auto].find? fun f => f.name == name

/-- The parts of a path between its slashes, without empty ones and single points. -/
def pathParts (path : List Char) : List (List Char) :=
  (path.splitOn '/').filter fun part => !part.isEmpty && part != ['.']

/-- The extension of a file name: what follows its last point, unless there is nothing before
it. -/
def extensionOf? (name : List Char) : Option (List Char) :=
  let reversed := name.reverse
  let ending := reversed.takeWhile (· != '.')
  match reversed.dropWhile (· != '.') with
  | [] => none
  | [_] => none
  | _ :: _ => if name == ['.', '.'] then none else some ending.reverse

/-- The format that the extension of a path's last part names, in upper or lower case. -/
def Format.ofPath (path : String) : Format :=
  match (pathParts path.toList).getLast?.bind extensionOf? with
  | none => .auto
  | some ext =>
    match Text.lowercase (String.ofList ext) with
    | "json" => .json
    | "yaml" => .yaml
    | "yml" => .yaml
    | "toml" => .toml
    | _ => .auto

end Settings

end RecordDiff
