import RecordDiff.Differ.Basic

/-!
# Comparing instances

Two instances are compared attribute by attribute, in the order of the attributes. `Differ.diff`
collects the attributes that differ, `Differ.compare` stops at the first of them. An attribute that
cannot be read from one of the instances is skipped and reported.

An instance does not differ from itself, whatever its attributes are; `Operands` tells whether two
operands are one instance. Where an instance may be missing, the operands are optional instances.
Whether they are one is known then as well, and it counts once they are there.

## Main definitions

* `Operands` - the two instances of a comparison
* `Operands.present` - the instances of a comparison in which they may be missing
* `Differ.diff`, `Differ.diffIfPresent` - the entries of the difference
* `Differ.compare`, `Differ.comparator` - the order of whole instances
-/

namespace RecordDiff

/-- The two operands of a comparison: one instance taken twice, or two instances. -/
inductive Operands (ι : Type _) where
  | shared (x : ι)
  | separate (first last : ι)
  deriving Repr

/-- The operands if both are there. Otherwise the error tells which one is missing, and of two
missing ones it tells the first. -/
def Operands.present {ι : Type _} : Operands (Option ι) → Except String (Operands ι)
  | .shared (some x) => .ok (.shared x)
  | .separate (some first) (some last) => .ok (.separate first last)
  | .shared none | .separate none _ => .error "first"
  | .separate (some _) none => .error "last"

namespace Differ

variable {ι : Type _}

/-! ### Reading the attributes -/

/-- Both values of an attribute, or the first error. -/
def pairReadings (first last : Reading) : Except AttributeError (Value × Value) :=
  match first, last with
  | .error e, _ => .error e
  | .ok _, .error e => .error e
  | .ok a, .ok b => .ok (a, b)

/-- The values of an attribute, unless it cannot be read; then the reason is reported. -/
def readPair (d : Differ ι) (name : String) (first last : Reading) :
    Logged (Option (Value × Value)) :=
  match pairReadings first last with
  | .ok values => .silent (some values)
  | .error e => ⟨none, [.skippedAttribute d.typeName name e]⟩

/-- The values of attributes whose readings are given. -/
def pairUp (d : Differ ι) :
    List (String × Reading × Reading) → Logged (List (String × Option (Value × Value)))
  | [] => .silent []
  | (name, first, last) :: rest => do
    let values ← d.readPair name first last
    let others ← pairUp d rest
    return (name, values) :: others

/-- The values that the attributes have in both instances, each of which is read once. -/
def readPairs (d : Differ ι) (first last : ι) :
    Logged (List (String × Option (Value × Value))) :=
  let firsts := d.resolver.readMany first d.active
  let lasts := d.resolver.readMany last d.active
  d.pairUp (d.active.zip (firsts.zip lasts))

/-! ### The difference -/

/-- The attributes that differ, up to the first that cannot be compared. -/
def entriesOf (d : Differ ι) :
    List (String × Option (Value × Value)) → Except DiffError (List Entry)
  | [] => .ok []
  | (_, none) :: rest => entriesOf d rest
  | (name, some (first, last)) :: rest =>
    match d.compareValues name first last with
    | .error e => .error (.comparison name e)
    | .ok .eq => entriesOf d rest
    | .ok _ => (entriesOf d rest).map (⟨name, first, last⟩ :: ·)

/-- The event that ends a comparison; one that failed ends without it. -/
def finished (d : Differ ι) : Except DiffError (List Entry) → List Event
  | .ok entries => [.comparedInstances d.typeName d.active.length entries.length]
  | .error _ => []

/-- The attributes in which two instances differ. -/
def diff (d : Differ ι) : Operands ι → Logged (Except DiffError (List Entry))
  | .shared _ => .silent (.ok [])
  | .separate first last => do
    let pairs ← d.readPairs first last
    let result := d.entriesOf pairs
    Logged.tell (d.finished result)
    return result

/-- The difference of operands that may be missing, which is an error. -/
def diffIfPresent (d : Differ ι) (operands : Operands (Option ι)) :
    Logged (Except DiffError (List Entry)) :=
  match operands.present with
  | .ok instances => d.diff instances
  | .error missing =>
    .silent (.error (.invalidArgument (missing ++ " " ++ d.typeName ++ " instance is missing")))

/-- The difference of two operands that are not one instance and may be missing. -/
def diffOptional (d : Differ ι) (first last : Option ι) :
    Logged (Except DiffError (List Entry)) :=
  d.diffIfPresent (.separate first last)

/-! ### The order of whole instances -/

/-- The order of the first attribute that differs. -/
def orderOf (d : Differ ι) : List (String × Option (Value × Value)) → Comparison
  | [] => .ok .eq
  | (_, none) :: rest => orderOf d rest
  | (name, some (first, last)) :: rest =>
    (d.compareValues name first last).thenWith fun _ => orderOf d rest

/-- The order of two instances by their attributes. -/
def orderByAttributes (d : Differ ι) : Operands ι → Logged Comparison
  | .shared _ => .silent (.ok .eq)
  | .separate first last => do
    let pairs ← d.readPairs first last
    return d.orderOf pairs

/-- The order of two operands that are present: that of the comparator for whole instances if there
is one, and the order by attributes otherwise. -/
def comparePresent (d : Differ ι) (operands : Operands ι) : Logged Comparison :=
  match d.base? with
  | none => d.orderByAttributes operands
  | some base =>
    .silent <| match operands with
      | .shared x => base.compare (some x) (some x)
      | .separate first last => base.compare (some first) (some last)

/-- The order of two operands that are not one instance and may be absent. One instance is compared
with itself by `comparePresent`. -/
def compare (d : Differ ι) (first last : Option ι) : Logged Comparison :=
  match d.base?, first, last with
  | some base, _, _ => .silent (base.compare first last)
  | none, none, none => .silent (.ok .eq)
  | none, none, some _ => .silent (.ok (Comparator.absentOrder d.nullsLast))
  | none, some _, none => .silent (.ok (Comparator.absentOrder d.nullsLast).swap)
  | none, some a, some b => d.orderByAttributes (.separate a b)

/-- The differ as a comparator for whole instances. -/
def comparator (d : Differ ι) : Comparator ι := ⟨fun first last => (d.compare first last).value⟩

end Differ

end RecordDiff
