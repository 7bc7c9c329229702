import RecordDiff.Compare.Keyed

/-!
# The order of values

Any two values of one kind are ordered: scalars by their own order, floating point numbers by the
total order of their words, arrays and lists by their first difference, maps entry by entry and
records of one type field by field. Longs and decimals are one kind of number. Values of different
kinds cannot be compared, and neither can a list with a null where the other has a value; null
fields and null map values come first.

## Main definitions

* `Value.naturalOrder` - the order of two values that are not null
* `Comparator.valueOrder` - the order of values, where null is absent

## Main results

* `Value.naturalOrder_list`, `Value.naturalOrder_map`, `Value.naturalOrder_record` - collections
  are ordered by their first difference, under the comparators for their elements
-/

namespace RecordDiff

namespace Value

/-- Two elements of which neither or both have to be null. -/
def bothPresent (a b : Value) (r : Comparison) : Comparison :=
  match a, b with
  | .null, .null => .ok .eq
  | .null, present => .error (.absent present.typeName)
  | present, .null => .error (.absent present.typeName)
  | _, _ => r

/-- Two elements of which a null one comes before a value. -/
def nullFirst (a b : Value) (r : Comparison) : Comparison :=
  match a, b with
  | .null, .null => .ok .eq
  | .null, _ => .ok .lt
  | _, .null => .ok .gt
  | _, _ => r

/-- Arrays by the order of lists over the order of their elements, which cannot fail. -/
def arrayOrder {α : Type} [Ord α] (xs ys : List α) : Comparison :=
  .ok (compare xs ys)

/-- Arrays of floating point numbers by their first difference. -/
def floatArrayOrder {α : Type} [Ord α] (xs ys : List α) : Comparison :=
  lexicographic (Comparator.natural "element") (xs.map some) (ys.map some)

mutual

/-- The order of two values that are not null. -/
def naturalOrder : Value → Value → Comparison
  | .bool a, .bool b => .ok (compare a b)
  | .byte a, .byte b => .ok (compare a b)
  | .short a, .short b => .ok (compare a b)
  | .char a, .char b => .ok (compare a b)
  | .int a, .int b => .ok (compare a b)
  | .long a, .long b => .ok (compare a b)
  | .float a, .float b => .ok (compare a b)
  | .double a, .double b => .ok (compare a b)
  | .string a, .string b => .ok (compare a b)
  | .decimal a, .decimal b => .ok (compare a b)
  | .long a, .decimal b => .ok (compare (Decimal.ofInt a.toInt) b)
  | .decimal a, .long b => .ok (compare a (Decimal.ofInt b.toInt))
  | .locale a, .locale b => .ok (compare a b)
  | .timestamp a, .timestamp b => .ok (compare a b)
  | .boolArray xs, .boolArray ys => arrayOrder xs ys
  | .byteArray xs, .byteArray ys => arrayOrder xs ys
  | .shortArray xs, .shortArray ys => arrayOrder xs ys
  | .charArray xs, .charArray ys => arrayOrder xs ys
  | .intArray xs, .intArray ys => arrayOrder xs ys
  | .longArray xs, .longArray ys => arrayOrder xs ys
  | .floatArray xs, .floatArray ys => floatArrayOrder xs ys
  | .doubleArray xs, .doubleArray ys => floatArrayOrder xs ys
  | .list xs, .list ys => listOrder xs ys
  | .map xs, .map ys => entriesOrder xs ys
  | .record m xs, .record n ys =>
    if m = n then fieldsOrder xs ys else .error (.incomparable m n)
  | a, b => .error (.incomparable a.typeName b.typeName)
termination_by structural a => a

/-- Lists by their first difference; a null stands only against a null. -/
def listOrder : List Value → List Value → Comparison
  | [], [] => .ok .eq
  | [], _ :: _ => .ok .lt
  | _ :: _, [] => .ok .gt
  | a :: as, b :: bs =>
    (bothPresent a b (naturalOrder a b)).thenWith fun _ => listOrder as bs
termination_by structural as => as

/-- Entries of maps by their first difference, each by its key and then by its value. -/
def entriesOrder : List (Value × Value) → List (Value × Value) → Comparison
  | [], [] => .ok .eq
  | [], _ :: _ => .ok .lt
  | _ :: _, [] => .ok .gt
  | (k, a) :: as, (l, b) :: bs =>
    ((bothPresent k l (naturalOrder k l)).thenWith fun _ =>
      nullFirst a b (naturalOrder a b)).thenWith fun _ => entriesOrder as bs
termination_by structural as => as

/-- Fields of records by their first difference, each by its name and then by its value. -/
def fieldsOrder : List (String × Value) → List (String × Value) → Comparison
  | [], [] => .ok .eq
  | [], _ :: _ => .ok .lt
  | _ :: _, [] => .ok .gt
  | (m, a) :: as, (n, b) :: bs =>
    (Comparison.thenWith (.ok (compare m n)) fun _ =>
      nullFirst a b (naturalOrder a b)).thenWith fun _ => fieldsOrder as bs
termination_by structural as => as

end

end Value

namespace Comparator

/-- The order of values. Null is absent; two absent operands are equal, a single one is an
error. -/
def valueOrder : Comparator Value where
  compare first last :=
    match first.bind Value.present?, last.bind Value.present? with
    | none, none => .ok .eq
    | some a, some b => Value.naturalOrder a b
    | some present, none => .error (.absent present.typeName)
    | none, some present => .error (.absent present.typeName)

/-- The order of values inside maps and records: null comes before every value. -/
def nullsFirst : Comparator Value where
  compare first last :=
    (nullSafe valueOrder false).compare (first.bind Value.present?) (last.bind Value.present?)

end Comparator

/-! ### Collections and the comparators for their elements -/

namespace Value

theorem bothPresent_naturalOrder (a b : Value) :
    bothPresent a b (naturalOrder a b) = elementOrder .valueOrder a.present? b.present? := by
  cases a <;> cases b <;> rfl

theorem bothPresent_eq_valueOrder (a b : Value) :
    bothPresent a b (naturalOrder a b) = Comparator.valueOrder.compare (some a) (some b) := by
  cases a <;> cases b <;> rfl

theorem nullFirst_eq_nullsFirst (a b : Value) :
    nullFirst a b (naturalOrder a b) = Comparator.nullsFirst.compare (some a) (some b) := by
  cases a <;> cases b <;> rfl

/-- Lists are ordered by their first difference. -/
theorem naturalOrder_list (xs ys : List Value) :
    naturalOrder (.list xs) (.list ys) =
      lexicographic .valueOrder (xs.map present?) (ys.map present?) := by
  rw [naturalOrder]
  induction xs generalizing ys with
  | nil => cases ys <;> rfl
  | cons a as ih =>
    cases ys with
    | nil => rfl
    | cons b bs => simp [listOrder, lexicographic, ih, bothPresent_naturalOrder]

/-- Maps are ordered by their first difference, entry by entry. -/
theorem naturalOrder_map (xs ys : List (Value × Value)) :
    naturalOrder (.map xs) (.map ys) =
      lexicographic (.entry .valueOrder .nullsFirst) (xs.map some) (ys.map some) := by
  rw [naturalOrder]
  induction xs generalizing ys with
  | nil => cases ys <;> rfl
  | cons a as ih =>
    cases ys with
    | nil => rfl
    | cons b bs =>
      simp [entriesOrder, lexicographic, elementOrder, Comparator.entry, Comparator.ofPresent, ih,
        bothPresent_eq_valueOrder, nullFirst_eq_nullsFirst]

/-- Records of one type are ordered by their first difference, field by field. -/
theorem naturalOrder_record (m n : String) (xs ys : List (String × Value)) :
    naturalOrder (.record m xs) (.record n ys) =
      if m = n then
        lexicographic (.entry (.natural "name") .nullsFirst) (xs.map some) (ys.map some)
      else .error (.incomparable m n) := by
  rw [naturalOrder]
  congr 1
  induction xs generalizing ys with
  | nil => cases ys <;> rfl
  | cons a as ih =>
    cases ys with
    | nil => rfl
    | cons b bs =>
      simp [fieldsOrder, lexicographic, elementOrder, Comparator.entry, Comparator.ofPresent,
        Comparator.natural, Comparator.ofOrder, ih, nullFirst_eq_nullsFirst]

end Value

end RecordDiff
