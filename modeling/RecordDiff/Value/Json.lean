import RecordDiff.Json.Basic
import RecordDiff.Value.Basic

/-!
# Values and JSON data

Every value has a JSON form. Kinds that JSON lacks are written with those that it has: characters,
decimals, locales and timestamps as strings, maps as arrays of pairs, and records as objects. In
the other direction a whole number that fits 64 bits with a sign is a long and a larger one a
decimal, other numbers are doubles, and objects are records without a type name.

## Main definitions

* `Value.toJson` - the JSON form of a value
* `Value.ofJson` - the value of JSON data
-/

namespace RecordDiff.Value

/-- A number of 32 bits in JSON is the double that it is exactly, and null when it is not
finite. -/
def singleToJson (x : Single) : Json :=
  if FloatFormat.single.isFinite x.word then .double (Double.ofSingle x) else .null

/-- A character in JSON is a string of length one. -/
def charToJson (c : Char) : Json := .string (String.singleton c)

mutual

/-- The JSON form of a value. -/
def toJson : Value → Json
  | .null => .null
  | .bool b => .bool b
  | .byte n => .integer n.toInt
  | .short n => .integer n.toInt
  | .char c => charToJson c
  | .int n => .integer n.toInt
  | .long n => .integer n.toInt
  | .float x => singleToJson x
  | .double x => Json.ofDouble x
  | .string s => .string s
  | .decimal d => .string d.text
  | .locale l => .string l.tag
  | .timestamp t => .string t.preciseText
  | .boolArray xs => .array (xs.map .bool)
  | .byteArray xs => .array (xs.map fun n => .integer n.toInt)
  | .shortArray xs => .array (xs.map fun n => .integer n.toInt)
  | .charArray xs => .array (xs.map charToJson)
  | .intArray xs => .array (xs.map fun n => .integer n.toInt)
  | .longArray xs => .array (xs.map fun n => .integer n.toInt)
  | .floatArray xs => .array (xs.map singleToJson)
  | .doubleArray xs => .array (xs.map Json.ofDouble)
  | .list items => .array (itemsToJson items)
  | .map entries => .array (entriesToJson entries)
  | .record _ fields => .object (Members.ofList (fieldsToJson fields))
termination_by structural v => v

/-- The JSON forms of the items of a list. -/
def itemsToJson : List Value → List Json
  | [] => []
  | v :: rest => toJson v :: itemsToJson rest
termination_by structural items => items

/-- The entries of a map as pairs. -/
def entriesToJson : List (Value × Value) → List Json
  | [] => []
  | (k, v) :: rest => .array [toJson k, toJson v] :: entriesToJson rest
termination_by structural entries => entries

/-- The fields of a record as members of an object. -/
def fieldsToJson : List (String × Value) → List (String × Json)
  | [] => []
  | (name, v) :: rest => (name, toJson v) :: fieldsToJson rest
termination_by structural fields => fields

end

/-- A whole number as a value: a long if it fits, a decimal otherwise. -/
def ofInteger (n : Int) : Value :=
  if Int64.minValue.toInt ≤ n ∧ n ≤ Int64.maxValue.toInt then .long (Int64.ofInt n)
  else .decimal (Decimal.ofInt n)

mutual

/-- The value of JSON data. -/
def ofJson : Json → Value
  | .null => .null
  | .bool b => .bool b
  | .integer n => ofInteger n
  | .double x => .double x
  | .string s => .string s
  | .array items => .list (itemsOfJson items)
  | .object members => .record "" (fieldsOfJson members)
termination_by structural j => j

/-- The values of the items of an array. -/
def itemsOfJson : List Json → List Value
  | [] => []
  | j :: rest => ofJson j :: itemsOfJson rest
termination_by structural items => items

/-- The members of an object as fields. -/
def fieldsOfJson : List (String × Json) → List (String × Value)
  | [] => []
  | (key, j) :: rest => (key, ofJson j) :: fieldsOfJson rest
termination_by structural members => members

end

theorem itemsToJson_eq_map (items : List Value) : itemsToJson items = items.map toJson := by
  induction items with
  | nil => rfl
  | cons v rest ih => simp [itemsToJson, ih]

theorem entriesToJson_eq_map (entries : List (Value × Value)) :
    entriesToJson entries = entries.map fun e => .array [toJson e.1, toJson e.2] := by
  induction entries with
  | nil => rfl
  | cons e rest ih => simp [entriesToJson, ih]

theorem fieldsToJson_eq_map (fields : List (String × Value)) :
    fieldsToJson fields = fields.map fun f => (f.1, toJson f.2) := by
  induction fields with
  | nil => rfl
  | cons f rest ih => simp [fieldsToJson, ih]

theorem itemsOfJson_eq_map (items : List Json) : itemsOfJson items = items.map ofJson := by
  induction items with
  | nil => rfl
  | cons j rest ih => simp [itemsOfJson, ih]

theorem fieldsOfJson_eq_map (members : List (String × Json)) :
    fieldsOfJson members = members.map fun m => (m.1, ofJson m.2) := by
  induction members with
  | nil => rfl
  | cons m rest ih => simp [fieldsOfJson, ih]

end RecordDiff.Value
