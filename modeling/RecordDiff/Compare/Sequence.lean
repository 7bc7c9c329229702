import RecordDiff.Compare.Basic

/-!
# Sequences

Sequences are ordered by their first difference, and a sequence comes before its continuations.
Elements may be absent: two absent elements are equal, and one absent element is left to the
comparator for elements. Elements after the first difference are never looked at.

## Main definitions

* `lexicographic` - the order of two sequences of elements that may be absent
* `Comparator.array`, `Comparator.objectArray`, `Comparator.list`, `Comparator.iterable` - that
  order for arrays, for arrays with holes, for lists of values and for containers
* `Comparator.lengthFirst` - shorter arrays first
-/

namespace RecordDiff

variable {α ι : Type _}

/-- The order of two elements at the same place. -/
def elementOrder (element : Comparator α) : Option α → Option α → Comparison
  | none, none => .ok .eq
  | a, b => element.compare a b

/-- The order of two sequences by their first difference. -/
def lexicographic (element : Comparator α) : List (Option α) → List (Option α) → Comparison
  | [], [] => .ok .eq
  | [], _ :: _ => .ok .lt
  | _ :: _, [] => .ok .gt
  | a :: as, b :: bs => (elementOrder element a b).thenWith fun _ => lexicographic element as bs

namespace Comparator

/-- Leaves two present operands to `order` and fails when one is absent. -/
def ofPresent (label : String) (order : α → α → Comparison) : Comparator α where
  compare
    | some a, some b => order a b
    | _, _ => .error (.absent label)

/-- Arrays by their first difference. -/
def array (element : Comparator α) : Comparator (List α) :=
  ofPresent "array" fun xs ys => lexicographic element (xs.map some) (ys.map some)

/-- Shorter arrays first, and arrays of one length by their first difference. -/
def lengthFirst (element : Comparator α) : Comparator (List α) :=
  ofPresent "array" fun xs ys =>
    Comparison.thenWith (.ok (Ord.compare xs.length ys.length)) fun _ =>
      lexicographic element (xs.map some) (ys.map some)

/-- Arrays whose elements may be absent, by their first difference. -/
def objectArray (element : Comparator α) : Comparator (List (Option α)) :=
  ofPresent "object array" (lexicographic element)

/-- Lists of values by their first difference. A null element is absent. -/
def list (element : Comparator Value) : Comparator (List Value) :=
  ofPresent "list" fun xs ys =>
    lexicographic element (xs.map Value.present?) (ys.map Value.present?)

/-- Containers by the first difference of their elements. -/
def iterable (elements : ι → List α) (element : Comparator α) : Comparator ι :=
  ofPresent "iterable" fun xs ys =>
    lexicographic element ((elements xs).map some) ((elements ys).map some)

end Comparator

end RecordDiff
