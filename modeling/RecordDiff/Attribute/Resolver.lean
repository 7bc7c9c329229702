import RecordDiff.Error
import RecordDiff.Value.Basic

/-!
# Resolvers

A resolver knows the attributes of a type and reads them from instances. Every reading may fail.

## Main definitions

* `AttributeInfo` - name and declared kind of an attribute
* `Resolver` - the attributes of a type and how they are read
-/

namespace RecordDiff

/-- Name and declared kind of an attribute. -/
structure AttributeInfo where
  name : String
  kind : Kind
  deriving DecidableEq, Repr, Inhabited

/-- What reading an attribute gives. -/
abbrev Reading := Except AttributeError Value

/-- The attributes of a type and how they are read, one at a time or many at once. -/
structure Resolver (ι : Type _) where
  typeName : String
  attributes : List AttributeInfo
  read : ι → String → Reading
  readMany : ι → List String → List Reading

end RecordDiff
