import RecordDiff.Attribute.Descriptor

/-!
# Inspection texts of attributes

The one-line forms of kinds, attributes and type descriptors. Readers are not shown.
-/

namespace RecordDiff

/-- The inspection text of a kind. -/
def Kind.inspect : Kind → String
  | .bool => "Bool"
  | .byte => "Byte"
  | .short => "Short"
  | .char => "Char"
  | .int => "Int"
  | .long => "Long"
  | .float => "Float"
  | .double => "Double"
  | .string => "String"
  | .decimal => "Decimal"
  | .locale => "Locale"
  | .timestamp => "Timestamp"
  | .boolArray => "BoolArray"
  | .byteArray => "ByteArray"
  | .shortArray => "ShortArray"
  | .charArray => "CharArray"
  | .intArray => "IntArray"
  | .longArray => "LongArray"
  | .floatArray => "FloatArray"
  | .doubleArray => "DoubleArray"
  | .list => "List"
  | .map => "Map"
  | .record typeName => "Record(" ++ Text.quoteString typeName ++ ")"
  | .any => "Any"

/-- The inspection text of a name and a kind. -/
def AttributeInfo.inspect (a : AttributeInfo) : String :=
  Text.inspectFields "AttributeInfo" [("name", Text.quoteString a.name), ("kind", a.kind.inspect)]

/-- The inspection text of an attribute. -/
def Attribute.inspect {ι : Type _} (a : Attribute ι) : String :=
  Text.inspectFields "AttributeDescriptor"
    [("name", Text.quoteString a.name), ("kind", a.kind.inspect),
     ("comparable", Text.inspectBool a.comparable)]

/-- The inspection text of a descriptor. -/
def TypeDescriptor.inspect {ι : Type _} (d : TypeDescriptor ι) : String :=
  Text.inspectFields "TypeDescriptor"
    [("type_name", Text.quoteString d.typeName),
     ("attributes", Text.inspectList (d.attributes.map Attribute.inspect))]

end RecordDiff
