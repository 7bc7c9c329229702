import RecordDiff.Error
import RecordDiff.Value.View

/-!
# Comparators

A comparator orders two operands, each of which may be absent, or fails. Comparators are built from
simple ones: made tolerant of absent operands, reversed, chained, moved along a key, or applied to
values through a view.

## Main definitions

* `Comparison` - an ordering or an error
* `Comparator` - an order on operands that may be absent
* `Comparator.natural`, `Comparator.ofOrder` - the order of a type, for present operands
* `Comparator.nullSafe`, `Comparator.reversed`, `Comparator.andThen`, `Comparator.byKey`,
  `Comparator.typed` - the ways to build further ones
-/

namespace RecordDiff

/-- The outcome of comparing two operands. -/
abbrev Comparison := Except CompareError Ordering

namespace Comparison

/-- The outcome with the operands exchanged, where an error stays as it is. -/
def reverse (r : Comparison) : Comparison := r.map Ordering.swap

/-- The outcome, or that of `next` when the operands are equal so far. -/
def thenWith (r : Comparison) (next : Unit → Comparison) : Comparison :=
  match r with
  | .ok .eq => next ()
  | decided => decided

@[simp] theorem reverse_ok (o : Ordering) : reverse (.ok o) = .ok o.swap := rfl

@[simp] theorem reverse_error (e : CompareError) : reverse (.error e) = .error e := rfl

@[simp] theorem thenWith_eq (next : Unit → Comparison) : thenWith (.ok .eq) next = next () := rfl

@[simp] theorem thenWith_lt (next : Unit → Comparison) : thenWith (.ok .lt) next = .ok .lt := rfl

@[simp] theorem thenWith_gt (next : Unit → Comparison) : thenWith (.ok .gt) next = .ok .gt := rfl

@[simp] theorem thenWith_error (e : CompareError) (next : Unit → Comparison) :
    thenWith (.error e) next = .error e := rfl

end Comparison

/-- An order on operands that may be absent. -/
@[ext] structure Comparator (α : Type _) where
  /-- The outcome for a first and a last operand. -/
  compare : Option α → Option α → Comparison

namespace Comparator

variable {α κ : Type _}

/-! ### Leaves -/

/-- Orders present operands by `order` and fails when one is absent, for want of a `label`. -/
def ofOrder (label : String) (order : α → α → Ordering) : Comparator α where
  compare
    | some a, some b => .ok (order a b)
    | _, _ => .error (.absent label)

/-- The order of the type, on present operands. -/
def natural [Ord α] (label : String) : Comparator α := ofOrder label Ord.compare

/-! ### Absent operands -/

/-- Where an absent operand stands against a present one. -/
def absentOrder (nullsLast : Bool) : Ordering := if nullsLast then .gt else .lt

/-- Two absent operands are equal, a single one comes first or last, and two present ones are left
to `c`. -/
def nullSafe (c : Comparator α) (nullsLast : Bool) : Comparator α where
  compare
    | none, none => .ok .eq
    | none, some _ => .ok (absentOrder nullsLast)
    | some _, none => .ok (absentOrder nullsLast).swap
    | some a, some b => c.compare (some a) (some b)

/-! ### Combinations -/

/-- The opposite order. -/
def reversed (c : Comparator α) : Comparator α := ⟨fun a b => (c.compare a b).reverse⟩

/-- The order of `c`, and among equal operands that of `next`. -/
def andThen (c next : Comparator α) : Comparator α :=
  ⟨fun a b => (c.compare a b).thenWith fun _ => next.compare a b⟩

/-- Orders operands by their keys; an absent operand has an absent key. -/
def byKey (key : α → κ) (c : Comparator κ) : Comparator α :=
  ⟨fun a b => c.compare (a.map key) (b.map key)⟩

/-! ### Values -/

/-- An operand as its view sees it. Null is absent, and a value of another kind is an error. -/
def viewed (view : View α) (v : Option Value) : Except CompareError (Option α) :=
  match v.bind Value.present? with
  | none => .ok none
  | some w =>
    match view.get? w with
    | some a => .ok (some a)
    | none => .error (.incomparable view.kindName w.typeName)

/-- Orders values of one kind. The first operand is looked at first. -/
def typed (view : View α) (c : Comparator α) : Comparator Value where
  compare first last :=
    match viewed view first with
    | .error e => .error e
    | .ok a =>
      match viewed view last with
      | .error e => .error e
      | .ok b => c.compare a b

end Comparator

end RecordDiff
