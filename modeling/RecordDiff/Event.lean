import RecordDiff.Error
import RecordDiff.Number.Digits
import RecordDiff.Text.Inspect

/-!
# Events

What a differ does is reported as events, so that a surprising result can be explained. An
operation that reports events gives them along with its value, in the order in which they
happened.

## Main definitions

* `Event` - what happened
* `Event.level`, `Event.message`, `Event.fields` - how it is reported
* `Logged` - a value with the events on the way to it
-/

namespace RecordDiff

/-- How much attention an event asks for. -/
inductive Level where
  | debug
  | warn
  deriving DecidableEq, Repr

/-- One of the two sets of a name filter. -/
inductive FilterSet where
  | included
  | excluded
  deriving DecidableEq, Repr

/-- The name of a set of a filter. -/
def FilterSet.name : FilterSet → String
  | .included => "include"
  | .excluded => "exclude"

/-- What happened while a type was described, a differ was set up or two instances were
compared. -/
inductive Event where
  /-- The attributes of a type were found. -/
  | resolvedAttributes (typeName : String) (count : Nat)
  /-- A name that no attribute has was added to a filter. -/
  | unknownName (typeName name : String) (set : FilterSet)
  /-- The attributes that are compared were determined anew. -/
  | recomputedActive (typeName : String) (active : List String)
  /-- A comparator was set for a name that no attribute has. -/
  | unresolvedComparator (typeName name : String)
  /-- An attribute of one of two instances could not be read. -/
  | skippedAttribute (typeName name : String) (cause : AttributeError)
  /-- Two instances were compared. -/
  | comparedInstances (typeName : String) (compared differences : Nat)
  /-- An attribute that is not declared was marked as not comparable. -/
  | undeclaredMark (typeName name : String)
  deriving DecidableEq, Repr

namespace Event

/-- How much attention the event asks for. -/
def level : Event → Level
  | .skippedAttribute .. => .warn
  | _ => .debug

/-- What happened. -/
def message : Event → String
  | .resolvedAttributes .. => "Resolved attributes"
  | .unknownName .. => "Ignoring unknown attribute name"
  | .recomputedActive .. => "Recomputed active attributes"
  | .unresolvedComparator .. => "Installing comparator for unresolved attribute"
  | .skippedAttribute .. => "Skipping unreadable attribute"
  | .comparedInstances .. => "Compared instances"
  | .undeclaredMark .. => "Ignoring non-comparable mark for undeclared attribute"

/-- The particulars of the event, by name. -/
def fields : Event → List (String × String)
  | .resolvedAttributes typeName count =>
    [("type_name", typeName), ("attributes", Digits.intText count)]
  | .unknownName typeName name set =>
    [("type_name", typeName), ("attribute", name), ("set", set.name)]
  | .recomputedActive typeName active =>
    [("type_name", typeName), ("active", Text.inspectStrings active)]
  | .unresolvedComparator typeName name => [("type_name", typeName), ("attribute", name)]
  | .skippedAttribute typeName name cause =>
    [("type_name", typeName), ("attribute", name), ("error", cause.message)]
  | .comparedInstances typeName compared differences =>
    [("type_name", typeName), ("compared", Digits.intText compared),
     ("differences", Digits.intText differences)]
  | .undeclaredMark typeName name => [("type_name", typeName), ("attribute", name)]

end Event

/-! ### Values with events -/

/-- A value and the events on the way to it. -/
structure Logged (α : Type _) where
  value : α
  log : List Event
  deriving Inhabited

namespace Logged

variable {α β : Type _}

/-- A value without events. -/
def silent (a : α) : Logged α := ⟨a, []⟩

/-- The value that `f` makes of the value, with the events of both. -/
def andThen (x : Logged α) (f : α → Logged β) : Logged β :=
  let y := f x.value
  ⟨y.value, x.log ++ y.log⟩

/-- The events alone. -/
def tell (events : List Event) : Logged Unit := ⟨(), events⟩

instance : Monad Logged where
  pure := silent
  bind := andThen

@[simp] theorem value_pure (a : α) : (pure a : Logged α).value = a := rfl

@[simp] theorem value_bind {α β : Type _} (x : Logged α) (f : α → Logged β) :
    (x >>= f).value = (f x.value).value := rfl

@[simp] theorem log_pure (a : α) : (pure a : Logged α).log = [] := rfl

@[simp] theorem log_bind {α β : Type _} (x : Logged α) (f : α → Logged β) :
    (x >>= f).log = x.log ++ (f x.value).log := rfl

end Logged

end RecordDiff
