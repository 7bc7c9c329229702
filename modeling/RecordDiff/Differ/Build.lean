import RecordDiff.Attribute.Descriptor
import RecordDiff.Attribute.Document
import RecordDiff.Differ.Basic
import RecordDiff.Settings.Load

/-!
# Making differs

The usual ways to come by a configured differ: from a descriptor with names to include or exclude
and a comparator for whole instances, from settings, from a settings file, or from a prototype
document.
-/

namespace RecordDiff.Differ

variable {ι : Type _}

/-- The differ of a described type. -/
def ofDescriptor (d : TypeDescriptor ι) : Logged (Differ ι) := ofResolver d.resolver

/-- A differ with names to include and to exclude. -/
def filtered (included excluded : List String) (d : Differ ι) : Logged (Differ ι) := do
  let narrowed ← d.includeNames included
  narrowed.excludeNames excluded

/-- A differ that leaves attributes out. -/
def ofDescriptorExcluding (d : TypeDescriptor ι) (excluded : List String) : Logged (Differ ι) := do
  let fresh ← ofDescriptor d
  fresh.excludeNames excluded

/-- A differ with names to include and to exclude. -/
def ofDescriptorFiltered (d : TypeDescriptor ι) (included excluded : List String) :
    Logged (Differ ι) := do
  let fresh ← ofDescriptor d
  fresh.filtered included excluded

/-- A differ with a comparator for whole instances. -/
def ofDescriptorWithBase (d : TypeDescriptor ι) (base : Comparator ι) : Logged (Differ ι) := do
  let fresh ← ofDescriptor d
  return fresh.setBase base

/-- A differ with a comparator for whole instances and with names to include and to exclude. -/
def ofDescriptorWith (d : TypeDescriptor ι) (base : Comparator ι)
    (included excluded : List String) : Logged (Differ ι) := do
  let based ← ofDescriptorWithBase d base
  based.filtered included excluded

/-- A differ configured by settings. Lists that are empty say nothing. -/
def ofSettings (d : TypeDescriptor ι) (s : Settings) : Logged (Differ ι) := do
  let fresh ← ofDescriptor d
  let placed := fresh.setNullsLast s.nullsLast
  let narrowed ← if s.included.isEmpty then pure placed else placed.includeNames s.included
  if s.excluded.isEmpty then pure narrowed else narrowed.excludeNames s.excluded

/-- A differ configured by the settings found at a path. -/
def ofSettingsFile (d : TypeDescriptor ι) (path : String) (content : FileContent) :
    Except DiffError (Logged (Differ ι)) :=
  match Settings.load path content with
  | .ok s => .ok (ofSettings d s)
  | .error e => .error (.settings e)

/-- The differ of the type of a prototype document. -/
def ofPrototype (typeName : String) (document : ι → Except Reason Json) (prototype : ι) :
    Except DiffError (Logged (Differ ι)) :=
  match DocumentResolver.ofPrototype typeName document prototype with
  | .ok r => .ok (ofResolver r.resolver)
  | .error e => .error (.discovery e)

end RecordDiff.Differ
