import RecordDiff.Attribute.Inspect
import RecordDiff.Differ.Basic

/-!
# The inspection text of a differ

One line that shows how a differ is configured. Comparators are shown by name only, in the order of
their names.
-/

namespace RecordDiff

/-- The inspection text of a filter. -/
def NameFilter.inspect (f : NameFilter) : String :=
  Text.inspectFields "PropertyFilter"
    [("include", Text.inspectStrings f.included), ("exclude", Text.inspectStrings f.excluded)]

/-- The names for which a comparator was set, sorted. -/
def Differ.overriddenNames {ι : Type _} (d : Differ ι) : List String :=
  (Members.names d.overrides).mergeSort fun a b => decide (a ≤ b)

/-- The inspection text of a differ. -/
def Differ.inspect {ι : Type _} (d : Differ ι) : String :=
  Text.inspectFields "DiffComparator"
    [("type_name", Text.quoteString d.typeName),
     ("resolved", Text.inspectList (d.resolved.map AttributeInfo.inspect)),
     ("filter", d.filter.inspect),
     ("active", Text.inspectStrings d.active),
     ("overrides", Text.inspectStrings d.overriddenNames),
     ("has_base", Text.inspectBool d.base?.isSome),
     ("nulls_last", Text.inspectBool d.nullsLast)]

end RecordDiff
