import RecordDiff.Value.Json
import RecordDiff.Value.Preview
import RecordDiff.Value.Same

/-!
# Entries of a difference

An entry names an attribute and holds its value in the first and in the last instance.

## Main definitions

* `Entry` - name and values
* `Entry.text`, `Entry.toJson` - an entry as a line and as JSON data
-/

namespace RecordDiff

/-- An attribute with its value in the first and in the last instance. -/
structure Entry where
  property : String
  first : Value
  last : Value
  deriving Inhabited

namespace Entry

/-- The number of characters that a line has for each value. -/
def previewLimit : Nat := 60

/-- The entry as a line: the name and the two values with an arrow between them. -/
def text (e : Entry) : String :=
  e.property ++ ": " ++ e.first.preview previewLimit ++ " → " ++ e.last.preview previewLimit

/-- The entry as JSON data. -/
def toJson (e : Entry) : Json :=
  .object [("property", .string e.property), ("first", e.first.toJson), ("last", e.last.toJson)]

/-- The entries have the same name and the same values. -/
def same (a b : Entry) : Bool :=
  a.property == b.property && a.first.same b.first && a.last.same b.last

end Entry

end RecordDiff
