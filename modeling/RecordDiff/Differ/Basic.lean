import RecordDiff.Attribute.Resolver
import RecordDiff.Compare.Library
import RecordDiff.Entry
import RecordDiff.Event
import RecordDiff.Filter

/-!
# Differs

A differ compares instances of a type attribute by attribute. It knows the attributes from a
resolver, compares those that its name filter lets pass, and has a comparator for each: the one set
for its name, or the default for its declared kind.

The attributes that are compared and the default comparators are kept with the differ and
determined anew whenever the filter or the place of absent values changes.

## Main definitions

* `Differ` - the state
* `Differ.ofResolver` - the differ that compares everything
* `Differ.includeNames`, `Differ.excludeNames`, `Differ.setNullsLast`, `Differ.setComparator`,
  `Differ.setBase` - how it is configured
-/

namespace RecordDiff

/-- The state of a differ over instances of type `ι`. -/
structure Differ (ι : Type _) where
  resolver : Resolver ι
  /-- The attributes that were found when the differ was made. -/
  resolved : List AttributeInfo
  /-- The comparator for whole instances, if one is set. -/
  base? : Option (Comparator ι)
  filter : NameFilter
  /-- The names of the attributes that are compared, in order. -/
  active : List String
  /-- The comparators for the declared kinds, by name. -/
  defaults : List (String × Comparator Value)
  /-- The comparators that were set, by name. -/
  overrides : List (String × Comparator Value)
  /-- The comparator of a name that has no other. -/
  fallback : Comparator Value
  nullsLast : Bool

namespace Differ

variable {ι : Type _}

/-- The name of the type. -/
def typeName (d : Differ ι) : String := d.resolver.typeName

/-- The names of all attributes that were found. -/
def resolvedNames (d : Differ ι) : List String := d.resolved.map (·.name)

/-- An attribute of that name was found. -/
def isResolved (d : Differ ι) (name : String) : Bool := decide (name ∈ d.resolvedNames)

/-- The default comparators of attributes; of two attributes of one name the last counts. -/
def defaultsFor (resolved : List AttributeInfo) (nullsLast : Bool) :
    List (String × Comparator Value) :=
  Members.ofList (resolved.map fun a => (a.name, .forKind a.kind nullsLast))

/-- The differ that compares all attributes by their defaults, absent values first. -/
def ofResolver (r : Resolver ι) : Logged (Differ ι) :=
  ⟨{ resolver := r
     resolved := r.attributes
     base? := none
     filter := .empty
     active := r.attributes.map (·.name)
     defaults := defaultsFor r.attributes false
     overrides := []
     fallback := .fallback false
     nullsLast := false },
   [.resolvedAttributes r.typeName r.attributes.length]⟩

/-! ### Configuration -/

/-- Says where absent values stand, and sets the defaults accordingly. -/
def setNullsLast (d : Differ ι) (nullsLast : Bool) : Differ ι :=
  if d.nullsLast = nullsLast then d
  else
    { d with
      nullsLast
      fallback := .fallback nullsLast
      defaults := defaultsFor d.resolved nullsLast }

/-- Compares whole instances by `c`. -/
def setBase (d : Differ ι) (c : Comparator ι) : Differ ι := { d with base? := some c }

/-- The events about names that were added to a set and that no attribute has. -/
def unknownNames (d : Differ ι) (set : FilterSet) (names : List String) : List Event :=
  (names.filter fun name => !d.isResolved name).map fun name => .unknownName d.typeName name set

/-- Determines the attributes that are compared from the filter. -/
def recompute (d : Differ ι) : Logged (Differ ι) :=
  let active := d.filter.apply d.resolvedNames
  ⟨{ d with active }, [.recomputedActive d.typeName active]⟩

/-- Compares only attributes that are included. -/
def includeNames (d : Differ ι) (names : List String) : Logged (Differ ι) := do
  let (filter, added) := d.filter.addIncluded names
  Logged.tell (d.unknownNames .included added)
  recompute { d with filter }

/-- Leaves out attributes. -/
def excludeNames (d : Differ ι) (names : List String) : Logged (Differ ι) := do
  let (filter, added) := d.filter.addExcluded names
  Logged.tell (d.unknownNames .excluded added)
  recompute { d with filter }

/-- Sets the comparator of an attribute. -/
def setComparator (d : Differ ι) (name : String) (c : Comparator Value) : Logged (Differ ι) :=
  ⟨{ d with overrides := Members.set name c d.overrides },
   if d.isResolved name then [] else [.unresolvedComparator d.typeName name]⟩

/-! ### Comparing one attribute -/

/-- The comparator of an attribute: the one that was set, or its default. -/
def comparatorFor (d : Differ ι) (name : String) : Comparator Value :=
  match Members.get? name d.overrides with
  | some c => c
  | none => (Members.get? name d.defaults).getD d.fallback

/-- Compares two values of an attribute, where null is absent. -/
def compareValues (d : Differ ι) (name : String) (first last : Value) : Comparison :=
  (d.comparatorFor name).compare first.present? last.present?

end Differ

end RecordDiff
