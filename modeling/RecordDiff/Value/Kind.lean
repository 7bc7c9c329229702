/-!
# Kinds of values

A kind says what sort of value an attribute holds. Records are told apart by their type name, and
`Kind.any` stands for an attribute whose values may be of every kind.
-/

namespace RecordDiff

/-- What sort of value an attribute holds. -/
inductive Kind where
  | bool
  | byte
  | short
  | char
  | int
  | long
  | float
  | double
  | string
  | decimal
  | locale
  | timestamp
  | boolArray
  | byteArray
  | shortArray
  | charArray
  | intArray
  | longArray
  | floatArray
  | doubleArray
  | list
  | map
  | record (typeName : String)
  | any
  deriving DecidableEq, Repr, Inhabited

namespace Kind

/-- The name of a kind; a record kind has the name of its type. -/
def name : Kind → String
  | .bool => "bool"
  | .byte => "byte"
  | .short => "short"
  | .char => "char"
  | .int => "int"
  | .long => "long"
  | .float => "float"
  | .double => "double"
  | .string => "string"
  | .decimal => "decimal"
  | .locale => "locale"
  | .timestamp => "timestamp"
  | .boolArray => "bool[]"
  | .byteArray => "byte[]"
  | .shortArray => "short[]"
  | .charArray => "char[]"
  | .intArray => "int[]"
  | .longArray => "long[]"
  | .floatArray => "float[]"
  | .doubleArray => "double[]"
  | .list => "list"
  | .map => "map"
  | .record typeName => typeName
  | .any => "any"

/-- The kinds that are not kinds of records. -/
def plain : List Kind :=
  [.bool, .byte, .short, .char, .int, .long, .float, .double, .string, .decimal, .locale,
   .timestamp, .boolArray, .byteArray, .shortArray, .charArray, .intArray, .longArray,
   .floatArray, .doubleArray, .list, .map, .any]

/-- The plain kind of a name. -/
def ofName? (name : String) : Option Kind := plain.find? fun k => k.name == name

end Kind

end RecordDiff
