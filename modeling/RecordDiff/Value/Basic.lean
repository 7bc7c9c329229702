import RecordDiff.Instant
import RecordDiff.Locale
import RecordDiff.Members
import RecordDiff.Number.FloatText
import RecordDiff.Value.Kind

/-!
# Attribute values

Every attribute of an instance is read as a `Value`, so that one comparator type serves all
attributes. `Value.null` stands for a value that is not there.

## Main definitions

* `Value` - the values, with lists, maps and records of values among them
* `Value.kind`, `Value.typeName` - what sort of value it is, and the name used in errors
* `Value.present?` - the value, unless it is null
* `Record` - a type name and named fields, as it is built and looked into
-/

namespace RecordDiff

/-- The value of an attribute. Maps keep the order of their entries, records that of their
fields. -/
inductive Value where
  | null
  | bool (b : Bool)
  | byte (n : Int8)
  | short (n : Int16)
  | char (c : Char)
  | int (n : Int32)
  | long (n : Int64)
  | float (x : Single)
  | double (x : Double)
  | string (s : String)
  | decimal (d : Decimal)
  | locale (l : Locale)
  | timestamp (t : Instant)
  | boolArray (xs : List Bool)
  | byteArray (xs : List Int8)
  | shortArray (xs : List Int16)
  | charArray (xs : List Char)
  | intArray (xs : List Int32)
  | longArray (xs : List Int64)
  | floatArray (xs : List Single)
  | doubleArray (xs : List Double)
  | list (items : List Value)
  | map (entries : List (Value × Value))
  | record (typeName : String) (fields : List (String × Value))
  deriving Inhabited

namespace Value

/-- The kind of a value. Null has no kind of its own. -/
def kind : Value → Kind
  | .null => .any
  | .bool _ => .bool
  | .byte _ => .byte
  | .short _ => .short
  | .char _ => .char
  | .int _ => .int
  | .long _ => .long
  | .float _ => .float
  | .double _ => .double
  | .string _ => .string
  | .decimal _ => .decimal
  | .locale _ => .locale
  | .timestamp _ => .timestamp
  | .boolArray _ => .boolArray
  | .byteArray _ => .byteArray
  | .shortArray _ => .shortArray
  | .charArray _ => .charArray
  | .intArray _ => .intArray
  | .longArray _ => .longArray
  | .floatArray _ => .floatArray
  | .doubleArray _ => .doubleArray
  | .list _ => .list
  | .map _ => .map
  | .record typeName _ => .record typeName

/-- The value is null. -/
def isNull : Value → Bool
  | .null => true
  | _ => false

/-- The name of a value's kind, as it is used in errors. -/
def typeName : Value → String
  | .null => "null"
  | v => v.kind.name

/-- The value, or nothing when it is null. -/
def present? : Value → Option Value
  | .null => none
  | v => some v

@[simp] theorem present?_null : present? .null = none := rfl

theorem present?_eq_some_iff {v w : Value} : v.present? = some w ↔ v = w ∧ v ≠ .null := by
  cases v <;> simp [present?, eq_comm]

theorem present?_eq_none_iff {v : Value} : v.present? = none ↔ v = .null := by
  cases v <;> simp [present?]

end Value

/-! ### Records -/

/-- A type name and fields in the order in which their names were first given. -/
structure Record where
  typeName : String
  fields : List (String × Value)
  deriving Inhabited

namespace Record

/-- A record without fields. -/
def empty (typeName : String) : Record := ⟨typeName, []⟩

/-- Gives a field a value; a field of that name keeps its place and gets the new value. -/
def set (r : Record) (name : String) (v : Value) : Record :=
  { r with fields := Members.set name v r.fields }

/-- The value of a field. -/
def get? (r : Record) (name : String) : Option Value := Members.get? name r.fields

/-- The record as a value. -/
def toValue (r : Record) : Value := .record r.typeName r.fields

end Record

/-- The record that a value is, if it is one. -/
def Value.asRecord? : Value → Option Record
  | .record typeName fields => some ⟨typeName, fields⟩
  | _ => none

end RecordDiff
