import RecordDiff.Value.Basic

/-!
# Equality of values

Two values are the same when they have the same kind and the same content. Numbers count by what
they denote: decimals of different scale may be the same, the two zeros of a floating point format
are, and a NaN is not the same as anything, itself included.

## Main definitions

* `Value.same` - the two values are equal in this sense
-/

namespace RecordDiff

/-- Two lists have the same length and are related item by item. -/
def sameItems {α : Type _} (same : α → α → Bool) : List α → List α → Bool
  | [], [] => true
  | x :: xs, y :: ys => same x y && sameItems same xs ys
  | _, _ => false

namespace Value

mutual

/-- The values are of one kind and have the same content. -/
def same : Value → Value → Bool
  | .null, .null => true
  | .bool a, .bool b => a == b
  | .byte a, .byte b => a == b
  | .short a, .short b => a == b
  | .char a, .char b => a == b
  | .int a, .int b => a == b
  | .long a, .long b => a == b
  | .float a, .float b => a.sameNumber b
  | .double a, .double b => a.sameNumber b
  | .string a, .string b => a == b
  | .decimal a, .decimal b => a.sameNumber b
  | .locale a, .locale b => a.tag == b.tag
  | .timestamp a, .timestamp b => a.seconds == b.seconds && a.nanos == b.nanos
  | .boolArray xs, .boolArray ys => xs == ys
  | .byteArray xs, .byteArray ys => xs == ys
  | .shortArray xs, .shortArray ys => xs == ys
  | .charArray xs, .charArray ys => xs == ys
  | .intArray xs, .intArray ys => xs == ys
  | .longArray xs, .longArray ys => xs == ys
  | .floatArray xs, .floatArray ys => sameItems Single.sameNumber xs ys
  | .doubleArray xs, .doubleArray ys => sameItems Double.sameNumber xs ys
  | .list xs, .list ys => sameList xs ys
  | .map xs, .map ys => sameEntries xs ys
  | .record m xs, .record n ys => m == n && sameFields xs ys
  | _, _ => false
termination_by structural v => v

/-- The lists have the same items. -/
def sameList : List Value → List Value → Bool
  | [], [] => true
  | v :: xs, w :: ys => same v w && sameList xs ys
  | _, _ => false
termination_by structural xs => xs

/-- The maps have the same entries in the same order. -/
def sameEntries : List (Value × Value) → List (Value × Value) → Bool
  | [], [] => true
  | (k, v) :: xs, (l, w) :: ys => same k l && same v w && sameEntries xs ys
  | _, _ => false
termination_by structural xs => xs

/-- The records have the same fields in the same order. -/
def sameFields : List (String × Value) → List (String × Value) → Bool
  | [], [] => true
  | (m, v) :: xs, (n, w) :: ys => m == n && same v w && sameFields xs ys
  | _, _ => false
termination_by structural xs => xs

end

end Value

end RecordDiff
