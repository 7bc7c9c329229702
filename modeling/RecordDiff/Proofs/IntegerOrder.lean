import RecordDiff.Proofs.DefaultOrder
import RecordDiff.Proofs.JsonIdentity

/-!
# Whole numbers inside JSON data

A whole number in JSON is read as a long or as a decimal according to its size, so two data that
differ in whole numbers only may differ in kinds as well, at any depth. The order of values does not
see this. It compares longs with decimals as numbers, and where both operands are built alike it
meets their whole numbers in the order in which they are written. It never fails on such data, and
the first two whole numbers that differ decide.

The sizes of the numbers do not matter for that: documents hold whole numbers from `-2 ^ 63` up to
`2 ^ 64`, and nothing happens at either end or at `2 ^ 63`, where longs end and decimals begin.

## Main definitions

* `Json.integers` - all whole numbers of JSON data, in the order of the document
* `Json.AlikeButIntegers` - data that differ in whole numbers only
* `ByFirstInteger` - the outcome that two rows of whole numbers call for

## Main results

* `Json.AlikeButIntegers.orderedByIntegers` - the order of such data is that of their whole numbers
* `Comparator.integers_ordered_exactly` - the first whole numbers that differ decide
-/

namespace RecordDiff

namespace Json

/-! ### Whole numbers in the order of the document -/

mutual

/-- All whole numbers of JSON data, in the order of the document. -/
def integers : Json → List ℤ
  | .integer n => [n]
  | .array items => integersOfItems items
  | .object members => integersOfMembers members
  | _ => []
termination_by structural j => j

/-- `integers` of the items of an array. -/
def integersOfItems : List Json → List ℤ
  | [] => []
  | j :: rest => integers j ++ integersOfItems rest
termination_by structural items => items

/-- `integers` of the values of an object. -/
def integersOfMembers : List (String × Json) → List ℤ
  | [] => []
  | (_, j) :: rest => integers j ++ integersOfMembers rest
termination_by structural members => members

end

theorem integersOfItems_eq_flatMap (items : List Json) :
    integersOfItems items = items.flatMap integers := by
  induction items with
  | nil => rfl
  | cons j rest ih => rw [integersOfItems, ih, List.flatMap_cons]

theorem integersOfMembers_eq_flatMap (members : List (String × Json)) :
    integersOfMembers members = members.flatMap fun m => integers m.2 := by
  induction members with
  | nil => rfl
  | cons m rest ih => rw [integersOfMembers, ih, List.flatMap_cons]

/-- Data that differ in whole numbers only: a whole number stands where a whole number stands, and
all else is the same. -/
inductive AlikeButIntegers : Json → Json → Prop
  | same (j : Json) : AlikeButIntegers j j
  | integer (m n : ℤ) : AlikeButIntegers (.integer m) (.integer n)
  | array {js ks : List Json} (items : List.Forall₂ AlikeButIntegers js ks) :
      AlikeButIntegers (.array js) (.array ks)
  | object {ms ns : List (String × Json)} (keys : ms.map Prod.fst = ns.map Prod.fst)
      (values : List.Forall₂ AlikeButIntegers (ms.map Prod.snd) (ns.map Prod.snd)) :
      AlikeButIntegers (.object ms) (.object ns)

end Json

/-! ### Rows of whole numbers -/

/-- The outcome that two rows of whole numbers call for. -/
inductive ByFirstInteger : List ℤ → List ℤ → Ordering → Prop
  /-- After what the rows have in common, the numbers that differ decide. -/
  | differ (ps : List ℤ) {m n : ℤ} (h : m ≠ n) (xs ys : List ℤ) :
      ByFirstInteger (ps ++ m :: xs) (ps ++ n :: ys) (compare m n)
  /-- Rows that do not differ are equal. -/
  | same (xs : List ℤ) : ByFirstInteger xs xs .eq

/-- Rows of one length are compared before what comes after them. -/
theorem compare_append {α : Type*} [Ord α] {xs ys : List α} (h : xs.length = ys.length)
    (us vs : List α) :
    compare (xs ++ us) (ys ++ vs) = (compare xs ys).then (compare us vs) := by
  induction xs generalizing ys with
  | nil =>
    obtain rfl := List.length_eq_zero_iff.mp h.symm
    rfl
  | cons x xs ih =>
    cases ys with
    | nil => cases h
    | cons y ys =>
      rw [List.cons_append, List.cons_append, List.compare_cons_cons, List.compare_cons_cons,
        ih (Nat.succ.inj h), Ordering.then_assoc]

theorem ByFirstInteger.eq_compare {xs ys : List ℤ} {o : Ordering} (h : ByFirstInteger xs ys o) :
    o = compare xs ys := by
  cases h with
  | differ ps hne xs ys =>
    have hps : compare ps ps = .eq := Std.ReflCmp.compare_self
    rw [compare_append rfl, hps, Ordering.eq_then, List.compare_cons_cons]
    rcases lt_or_gt_of_ne hne with hlt | hgt
    · rw [compare_lt_iff_lt.mpr hlt, Ordering.lt_then]
    · rw [compare_gt_iff_gt.mpr hgt, Ordering.gt_then]
  | same xs => exact Std.ReflCmp.compare_self.symm

theorem ByFirstInteger.cons {xs ys : List ℤ} {o : Ordering} (n : ℤ) (h : ByFirstInteger xs ys o) :
    ByFirstInteger (n :: xs) (n :: ys) o := by
  cases h with
  | differ ps hne xs ys => exact .differ (n :: ps) hne xs ys
  | same xs => exact .same (n :: xs)

/-- Rows of one length call for their order as lists. -/
theorem byFirstInteger_compare {xs ys : List ℤ} (h : xs.length = ys.length) :
    ByFirstInteger xs ys (compare xs ys) := by
  induction xs generalizing ys with
  | nil =>
    obtain rfl := List.length_eq_zero_iff.mp h.symm
    exact .same []
  | cons m xs ih =>
    cases ys with
    | nil => cases h
    | cons n ys =>
      by_cases hmn : m = n
      · subst hmn
        rw [List.compare_cons_cons, compare_eq_iff_eq.mpr rfl, Ordering.eq_then]
        exact (ih (Nat.succ.inj h)).cons m
      · have hdiffer : ByFirstInteger (m :: xs) (n :: ys) (compare m n) := .differ [] hmn xs ys
        exact hdiffer.eq_compare ▸ hdiffer

namespace Comparator

open Value

/-! ### Values of JSON data -/

/-- Whole numbers keep their order, whichever of them are longs. -/
theorem valueOrder_ofInteger (m n : ℤ) :
    valueOrder.compare (some (ofInteger m)) (some (ofInteger n)) = .ok (Ord.compare m n) := by
  obtain ⟨p, hp, hm⟩ := Option.map_eq_some_iff.mp (number?_ofInteger m)
  obtain ⟨q, hq, hn⟩ := Option.map_eq_some_iff.mp (number?_ofInteger n)
  have hcast : Ord.compare (m : ℚ) (n : ℚ) = Ord.compare m n := by
    rw [← cmp_eq_compare, Int.cast_strictMono.cmp_map_eq, cmp_eq_compare]
  rw [valueOrder_numbers hp hq, Decimal.compare_eq, hm, hn, hcast]

theorem fallback_of_valueOrder {v w : Value} {o : Ordering}
    (h : valueOrder.compare (some v) (some w) = .ok o) (nullsLast : Bool) :
    (fallback nullsLast).compare (some v) (some w) = .ok o :=
  (fallback_compare nullsLast (some v) (some w)).trans (nullSafe_present? h nullsLast)

/-- Where the elements are ordered by rows of one length, sequences are ordered by the rows that these
make up. -/
theorem lexicographic_flatMap {α β γ : Type*} [Ord γ] {c : Comparator α} {element : β → Option α}
    {row : β → List γ} {xs ys : List β}
    (h : List.Forall₂ (fun x y => (row x).length = (row y).length ∧
      elementOrder c (element x) (element y) = .ok (Ord.compare (row x) (row y))) xs ys) :
    (xs.flatMap row).length = (ys.flatMap row).length ∧
      lexicographic c (xs.map element) (ys.map element) =
        .ok (Ord.compare (xs.flatMap row) (ys.flatMap row)) := by
  induction h with
  | nil => exact ⟨rfl, rfl⟩
  | @cons x y xs ys hxy _ ih =>
    obtain ⟨hlength, horder⟩ := hxy
    rw [List.flatMap_cons, List.flatMap_cons]
    refine ⟨?_, ?_⟩
    · rw [List.length_append, List.length_append, hlength, ih.1]
    · rw [List.map_cons, List.map_cons, lexicographic, horder, ih.2, compare_append hlength]
      cases Ord.compare (row x) (row y) <;> rfl

end Comparator

/-! ### Data ordered by their whole numbers -/

namespace Json

open Comparator

/-- Two data have equally many whole numbers, and the order of values orders the data as it orders
the rows of these. -/
structure OrderedByIntegers (j k : Json) : Prop where
  length_eq : j.integers.length = k.integers.length
  order : valueOrder.compare (some (.ofJson j)) (some (.ofJson k)) =
    .ok (compare j.integers k.integers)

theorem orderedByIntegers_array {js ks : List Json} (h : List.Forall₂ OrderedByIntegers js ks) :
    OrderedByIntegers (.array js) (.array ks) := by
  have helements : List.Forall₂ (fun j k => j.integers.length = k.integers.length ∧
      elementOrder valueOrder (Value.ofJson j).present? (Value.ofJson k).present? =
        .ok (compare j.integers k.integers)) js ks :=
    h.imp fun j k hjk => ⟨hjk.length_eq, (elementOrder_present? _ _).trans hjk.order⟩
  obtain ⟨hlength, horder⟩ := lexicographic_flatMap helements
  constructor
  · rw [integers, integers, integersOfItems_eq_flatMap, integersOfItems_eq_flatMap]
    exact hlength
  · rw [integers, integers, integersOfItems_eq_flatMap, integersOfItems_eq_flatMap, Value.ofJson,
      Value.ofJson, valueOrder_list, Value.itemsOfJson_eq_map, Value.itemsOfJson_eq_map,
      List.map_map, List.map_map]
    exact horder

theorem orderedByIntegers_object {ms ns : List (String × Json)}
    (hkeys : ms.map Prod.fst = ns.map Prod.fst)
    (h : List.Forall₂ OrderedByIntegers (ms.map Prod.snd) (ns.map Prod.snd)) :
    OrderedByIntegers (.object ms) (.object ns) := by
  have hmembers : List.Forall₂ (fun m n => m.1 = n.1 ∧ OrderedByIntegers m.2 n.2) ms ns :=
    forall₂_and_iff.mpr ⟨List.forall₂_eq_eq_eq.symm ▸ hkeys, h⟩
  have helements : List.Forall₂ (fun m n => m.2.integers.length = n.2.integers.length ∧
      elementOrder (entry (natural "name") nullsFirst)
          (some (m.1, Value.ofJson m.2)) (some (n.1, Value.ofJson n.2)) =
        .ok (compare m.2.integers n.2.integers)) ms ns := by
    refine hmembers.imp fun m n ⟨hkey, hmn⟩ => ⟨hmn.length_eq, ?_⟩
    have hname : (natural "name").compare (some m.1) (some n.1) = .ok .eq := by
      rw [hkey]
      exact congrArg Except.ok Std.ReflCmp.compare_self
    calc elementOrder (entry (natural "name") nullsFirst) (some (m.1, Value.ofJson m.2))
          (some (n.1, Value.ofJson n.2))
        = ((natural "name").compare (some m.1) (some n.1)).thenWith fun _ =>
            nullsFirst.compare (some (.ofJson m.2)) (some (.ofJson n.2)) := rfl
      _ = nullsFirst.compare (some (.ofJson m.2)) (some (.ofJson n.2)) := by
          rw [hname, Comparison.thenWith_eq]
      _ = .ok (compare m.2.integers n.2.integers) := nullSafe_present? hmn.order false
  obtain ⟨hlength, horder⟩ := lexicographic_flatMap helements
  constructor
  · rw [integers, integers, integersOfMembers_eq_flatMap, integersOfMembers_eq_flatMap]
    exact hlength
  · rw [integers, integers, integersOfMembers_eq_flatMap, integersOfMembers_eq_flatMap,
      Value.ofJson, Value.ofJson, valueOrder_record, Value.fieldsOfJson_eq_map,
      Value.fieldsOfJson_eq_map, List.map_map, List.map_map]
    exact horder

theorem AlikeButIntegers.orderedByIntegers {j k : Json} (h : j.AlikeButIntegers k) :
    OrderedByIntegers j k := by
  -- The relation is nested inside lists, so the induction is along the parts of the first data.
  induction j using Json.inductionOn generalizing k with
  | step j ih =>
    cases h with
    | same => exact ⟨rfl, (valueOrder_some_self _).trans (congrArg _ Std.ReflCmp.compare_self.symm)⟩
    | integer m n =>
      refine ⟨rfl, (valueOrder_ofInteger m n).trans ?_⟩
      rw [integers, integers, List.compare_cons_cons]
      exact congrArg Except.ok Ordering.then_eq.symm
    | array items =>
      exact orderedByIntegers_array (forall₂_imp_of_mem (fun j hj k => ih j hj) items)
    | object keys values =>
      exact orderedByIntegers_object keys (forall₂_imp_of_mem (fun j hj k => ih j hj) values)

end Json

namespace Comparator

open Json

/-- **Whole numbers are ordered exactly.** Two whole numbers read as values have their own order,
whichever of them are longs and whichever are decimals. So have data of any depth that differ in
whole numbers only: these call for one outcome and no other, in the order of the document the first
that differ decide it, and both the order of values and the fallback have this outcome. -/
theorem integers_ordered_exactly :
    (∀ (m n : ℤ) (nullsLast : Bool),
      valueOrder.compare (some (.ofJson (.integer m))) (some (.ofJson (.integer n))) =
        .ok (Ord.compare m n) ∧
      (fallback nullsLast).compare (some (.ofJson (.integer m))) (some (.ofJson (.integer n))) =
        .ok (Ord.compare m n)) ∧
    ∀ j k, AlikeButIntegers j k →
      ∃ o, (∀ o', ByFirstInteger j.integers k.integers o' ↔ o' = o) ∧
        valueOrder.compare (some (.ofJson j)) (some (.ofJson k)) = .ok o ∧
        ∀ nullsLast,
          (fallback nullsLast).compare (some (.ofJson j)) (some (.ofJson k)) = .ok o := by
  refine ⟨fun m n nullsLast => ?_, fun j k h => ?_⟩
  · have horder := valueOrder_ofInteger m n
    exact ⟨horder, fallback_of_valueOrder horder nullsLast⟩
  · have hordered := h.orderedByIntegers
    refine ⟨Ord.compare j.integers k.integers, fun o' => ⟨fun ho' => ho'.eq_compare, ?_⟩,
      hordered.order, fallback_of_valueOrder hordered.order⟩
    rintro rfl
    exact byFirstInteger_compare hordered.length_eq

/-- Counters in arrays and objects: the first is the same, and the next is the last long in one of
the two and the first decimal in the other. -/
def counters (n total : ℤ) : Json :=
  .array [.integer 7, .null, .object [("reads", .array [.integer n]), ("total", .integer total)]]

/-- The larger total comes too late to count. -/
theorem integers_ordered_exactly_counters :
    AlikeButIntegers (counters (2 ^ 63 - 1) (2 ^ 64 - 1)) (counters (2 ^ 63) 0) ∧
    valueOrder.compare (some (.ofJson (counters (2 ^ 63 - 1) (2 ^ 64 - 1))))
      (some (.ofJson (counters (2 ^ 63) 0))) = .ok .lt ∧
    (fallback true).compare (some (.ofJson (counters (2 ^ 63 - 1) (2 ^ 64 - 1))))
      (some (.ofJson (counters (2 ^ 63) 0))) = .ok .lt := by
  have halike : AlikeButIntegers (counters (2 ^ 63 - 1) (2 ^ 64 - 1)) (counters (2 ^ 63) 0) := by
    refine .array (.cons (.same _) (.cons (.same _) (.cons (.object rfl ?_) .nil)))
    exact .cons (.array (.cons (.integer _ _) .nil)) (.cons (.integer _ _) .nil)
  obtain ⟨o, hrow, hvalues, hfallback⟩ := integers_ordered_exactly.2 _ _ halike
  have hdiffer : ByFirstInteger [7, 2 ^ 63 - 1, 2 ^ 64 - 1] [7, 2 ^ 63, 0] .lt :=
    .differ [7] (by decide) [2 ^ 64 - 1] [0]
  obtain rfl : .lt = o := (hrow .lt).mp hdiffer
  exact ⟨halike, hvalues, hfallback true⟩

end Comparator

end RecordDiff
