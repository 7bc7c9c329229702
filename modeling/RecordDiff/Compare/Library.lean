import RecordDiff.Compare.ValueOrder

/-!
# Default comparators

The comparators that are used when nothing else is asked for. All of them take absent operands;
`nullsLast` says whether an absent operand comes after every present one or before.

## Main definitions

* `Comparator.naturalSafe`, `Comparator.arraySafe` - the order of a type and of arrays over it
* `Comparator.fallback` - the order of values of every kind
* `Comparator.forKind` - the default order of the values of one kind
-/

namespace RecordDiff.Comparator

/-- The order of a type, with absent operands. -/
def naturalSafe {α : Type _} [Ord α] (label : String) (nullsLast : Bool) : Comparator α :=
  (natural label).nullSafe nullsLast

/-- Arrays by the order of their elements, with absent operands. -/
def arraySafe {α : Type _} [Ord α] (label : String) (nullsLast : Bool) : Comparator (List α) :=
  (array (natural label)).nullSafe nullsLast

/-- Lists of values by the order of values, with absent operands. -/
def listSafe (nullsLast : Bool) : Comparator (List Value) := (list valueOrder).nullSafe nullsLast

/-- Values of every kind. -/
def fallback (nullsLast : Bool) : Comparator Value :=
  typed .any (valueOrder.nullSafe nullsLast)

/-- The default comparator of an attribute of the kind. A value of another kind is an error, save
for the kinds that take values of every kind. -/
def forKind (kind : Kind) (nullsLast : Bool) : Comparator Value :=
  match kind with
  | .bool => typed .bool (naturalSafe kind.name nullsLast)
  | .byte => typed .byte (naturalSafe kind.name nullsLast)
  | .short => typed .short (naturalSafe kind.name nullsLast)
  | .char => typed .char (naturalSafe kind.name nullsLast)
  | .int => typed .int (naturalSafe kind.name nullsLast)
  | .long => typed .long (naturalSafe kind.name nullsLast)
  | .float => typed .float (naturalSafe kind.name nullsLast)
  | .double => typed .double (naturalSafe kind.name nullsLast)
  | .string => typed .string (naturalSafe kind.name nullsLast)
  | .decimal => typed .decimal (naturalSafe kind.name nullsLast)
  | .locale => typed .locale (naturalSafe kind.name nullsLast)
  | .timestamp => typed .timestamp (naturalSafe kind.name nullsLast)
  | .boolArray => typed .boolArray (arraySafe "element" nullsLast)
  | .byteArray => typed .byteArray (arraySafe "element" nullsLast)
  | .shortArray => typed .shortArray (arraySafe "element" nullsLast)
  | .charArray => typed .charArray (arraySafe "element" nullsLast)
  | .intArray => typed .intArray (arraySafe "element" nullsLast)
  | .longArray => typed .longArray (arraySafe "element" nullsLast)
  | .floatArray => typed .floatArray (arraySafe "element" nullsLast)
  | .doubleArray => typed .doubleArray (arraySafe "element" nullsLast)
  | .list => typed .list (listSafe nullsLast)
  | .map | .record _ | .any => fallback nullsLast

end RecordDiff.Comparator
