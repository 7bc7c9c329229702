import RecordDiff.Value.Basic

/-!
# Views of a value as one kind

A view looks at a value as if it were of one kind and fails on all others. With a view a comparator
for that kind can be used on values.

## Main definitions

* `View` - the name of a kind and the content of the values of that kind
* `View.any` and one view for each other kind
-/

namespace RecordDiff

/-- The values of one kind with their content. -/
structure View (α : Type _) where
  kindName : String
  get? : Value → Option α

namespace View

/-- Every value as it is. -/
def any : View Value := ⟨"any", some⟩

/-- Truth values. -/
def bool : View Bool := ⟨"bool", fun | .bool b => some b | _ => none⟩

/-- Bytes. -/
def byte : View Int8 := ⟨"byte", fun | .byte n => some n | _ => none⟩

/-- Shorts. -/
def short : View Int16 := ⟨"short", fun | .short n => some n | _ => none⟩

/-- Characters. -/
def char : View Char := ⟨"char", fun | .char c => some c | _ => none⟩

/-- Ints. -/
def int : View Int32 := ⟨"int", fun | .int n => some n | _ => none⟩

/-- Longs. -/
def long : View Int64 := ⟨"long", fun | .long n => some n | _ => none⟩

/-- Floating point numbers of 32 bits. -/
def float : View Single := ⟨"float", fun | .float x => some x | _ => none⟩

/-- Floating point numbers of 64 bits. -/
def double : View Double := ⟨"double", fun | .double x => some x | _ => none⟩

/-- Strings. -/
def string : View String := ⟨"string", fun | .string s => some s | _ => none⟩

/-- Decimals. -/
def decimal : View Decimal := ⟨"decimal", fun | .decimal d => some d | _ => none⟩

/-- Locales. -/
def locale : View Locale := ⟨"locale", fun | .locale l => some l | _ => none⟩

/-- Timestamps. -/
def timestamp : View Instant := ⟨"timestamp", fun | .timestamp t => some t | _ => none⟩

/-- Records. -/
def record : View Record := ⟨"record", Value.asRecord?⟩

/-- Arrays of truth values. -/
def boolArray : View (List Bool) := ⟨"bool[]", fun | .boolArray xs => some xs | _ => none⟩

/-- Arrays of bytes. -/
def byteArray : View (List Int8) := ⟨"byte[]", fun | .byteArray xs => some xs | _ => none⟩

/-- Arrays of shorts. -/
def shortArray : View (List Int16) := ⟨"short[]", fun | .shortArray xs => some xs | _ => none⟩

/-- Arrays of characters. -/
def charArray : View (List Char) := ⟨"char[]", fun | .charArray xs => some xs | _ => none⟩

/-- Arrays of ints. -/
def intArray : View (List Int32) := ⟨"int[]", fun | .intArray xs => some xs | _ => none⟩

/-- Arrays of longs. -/
def longArray : View (List Int64) := ⟨"long[]", fun | .longArray xs => some xs | _ => none⟩

/-- Arrays of floating point numbers of 32 bits. -/
def floatArray : View (List Single) := ⟨"float[]", fun | .floatArray xs => some xs | _ => none⟩

/-- Arrays of floating point numbers of 64 bits. -/
def doubleArray : View (List Double) := ⟨"double[]", fun | .doubleArray xs => some xs | _ => none⟩

/-- Lists of values. -/
def list : View (List Value) := ⟨"list", fun | .list items => some items | _ => none⟩

/-- Maps from values to values. -/
def map : View (List (Value × Value)) := ⟨"map", fun | .map entries => some entries | _ => none⟩

end View

end RecordDiff
