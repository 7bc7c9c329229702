import RecordDiff.Proofs.ValueOrder

/-!
# What the order of values identifies

Two operands are equal to the order exactly when they are the same value up to two identifications,
applied at every depth: null is the same as an absent operand, and numbers are the same when they
stand for one number, be they decimals of different scales or a decimal and a long. All else has to
coincide. Floating point numbers are their words here, so that a NaN is the same as itself and the
two zeros are not.

## Main definitions

* `Value.Identified` - the same value up to the identifications

## Main results

* `Comparator.valueOrder_eq_iff` - the order says that operands are equal exactly when they are
  identified
-/

namespace RecordDiff

open Comparison

namespace Value

/-- The same value, up to the number that decimals and longs stand for. Lists correspond item by
item; maps have their entries and records their fields in one order, with the same names. -/
inductive Identified : Value → Value → Prop
  /-- A value is the same as itself. -/
  | same (a : Value) : Identified a a
  /-- Decimals are the same when their numbers are, whatever their scales. -/
  | decimal {p q : Decimal} (h : p.value = q.value) : Identified (.decimal p) (.decimal q)
  /-- A long is the same as a decimal of its number. -/
  | longDecimal {n : Int64} {q : Decimal} (h : n.toInt = q.value) :
      Identified (.long n) (.decimal q)
  /-- A decimal is the same as a long of its number. -/
  | decimalLong {p : Decimal} {n : Int64} (h : p.value = n.toInt) :
      Identified (.decimal p) (.long n)
  /-- Lists of the same items in the same order. -/
  | list {xs ys : List Value} (h : List.Forall₂ Identified xs ys) : Identified (.list xs) (.list ys)
  /-- Maps of the same keys and the same values in the same order. -/
  | map {xs ys : List (Value × Value)}
      (keys : List.Forall₂ Identified (xs.map Prod.fst) (ys.map Prod.fst))
      (values : List.Forall₂ Identified (xs.map Prod.snd) (ys.map Prod.snd)) :
      Identified (.map xs) (.map ys)
  /-- Records of one type, with the same names and the same values in the same order. -/
  | record {typeName : String} {xs ys : List (String × Value)}
      (names : xs.map Prod.fst = ys.map Prod.fst)
      (values : List.Forall₂ Identified (xs.map Prod.snd) (ys.map Prod.snd)) :
      Identified (.record typeName xs) (.record typeName ys)

end Value

/-! ### Corresponding items -/

/-- Lists that correspond under a relation do so under another one that it implies for the items
of the first list. -/
theorem forall₂_imp_of_mem {α β : Type*} {R S : α → β → Prop} {xs : List α} {ys : List β}
    (h : ∀ x ∈ xs, ∀ y, R x y → S x y) (hxy : List.Forall₂ R xs ys) : List.Forall₂ S xs ys := by
  have hmem : List.Forall₂ (fun x y => x ∈ xs ∧ R x y) xs ys :=
    (List.forall₂_and_left xs ys).mpr ⟨fun _ => id, hxy⟩
  exact hmem.imp fun x y hy => h x hy.1 y hy.2

namespace Comparator

open Value

/-! ### Equality of values -/

theorem valueOrder_numbers_eq_iff {a b : Value} {p q : Decimal} (ha : a.number? = some p)
    (hb : b.number? = some q) :
    valueOrder.compare (some a) (some b) = .ok .eq ↔ p.value = q.value := by
  rw [valueOrder_numbers ha hb, Except.ok.injEq, Decimal.compare_eq_eq_iff]

theorem identified_of_valueOrder_eq {a b : Value}
    (h : valueOrder.compare (some a) (some b) = .ok .eq) : a.Identified b := by
  induction a using Value.inductionOn generalizing b with
  | step a ih =>
    have hab := matched_of_valueOrder h
    cases hab with
    | null => exact .same _
    | decimal p q => exact .decimal ((valueOrder_numbers_eq_iff rfl rfl).mp h)
    | longDecimal n q =>
      refine .longDecimal ?_
      rw [← Decimal.value_ofInt]
      exact (valueOrder_numbers_eq_iff rfl rfl).mp h
    | decimalLong p n =>
      refine .decimalLong ?_
      rw [← Decimal.value_ofInt]
      exact (valueOrder_numbers_eq_iff rfl rfl).mp h
    | floatArray xs ys =>
      have h := (lexicographic_natural "element" xs ys).symm.trans h
      obtain rfl := Std.LawfulEqOrd.eq_of_compare (Except.ok.inj h)
      exact .same _
    | doubleArray xs ys =>
      have h := (lexicographic_natural "element" xs ys).symm.trans h
      obtain rfl := Std.LawfulEqOrd.eq_of_compare (Except.ok.inj h)
      exact .same _
    | list xs ys =>
      have hitems := valueOrder_list_eq_iff.mp h
      exact .list (forall₂_imp_of_mem (fun v hv w => ih v hv) hitems)
    | map xs ys =>
      obtain ⟨hkeys, hvalues⟩ := valueOrder_map_eq_iff.mp h
      exact .map (forall₂_imp_of_mem (fun k hk l => ih k (List.mem_append_left _ hk)) hkeys)
        (forall₂_imp_of_mem (fun v hv w => ih v (List.mem_append_right _ hv)) hvalues)
    | record typeName xs ys =>
      obtain ⟨hnames, hvalues⟩ := valueOrder_record_eq_iff.mp h
      exact .record hnames (forall₂_imp_of_mem (fun v hv w => ih v hv) hvalues)
    | _ =>
      obtain rfl := Std.LawfulEqOrd.eq_of_compare (Except.ok.inj h)
      exact .same _

theorem valueOrder_eq_of_identified {a b : Value} (h : a.Identified b) :
    valueOrder.compare (some a) (some b) = .ok .eq := by
  induction a using Value.inductionOn generalizing b with
  | step a ih =>
    cases h with
    | same => exact valueOrder_some_self a
    | decimal h => exact (valueOrder_numbers_eq_iff rfl rfl).mpr h
    | longDecimal h =>
      rw [← Decimal.value_ofInt] at h
      exact (valueOrder_numbers_eq_iff rfl rfl).mpr h
    | decimalLong h =>
      rw [← Decimal.value_ofInt] at h
      exact (valueOrder_numbers_eq_iff rfl rfl).mpr h
    | list h => exact valueOrder_list_eq_iff.mpr (forall₂_imp_of_mem (fun v hv w => ih v hv) h)
    | map keys values =>
      refine valueOrder_map_eq_iff.mpr ⟨?_, ?_⟩
      · exact forall₂_imp_of_mem (fun k hk l => ih k (List.mem_append_left _ hk)) keys
      · exact forall₂_imp_of_mem (fun v hv w => ih v (List.mem_append_right _ hv)) values
    | record names values =>
      refine valueOrder_record_eq_iff.mpr ⟨names, ?_⟩
      exact forall₂_imp_of_mem (fun v hv w => ih v hv) values

/-- **The order of values loses no difference and invents none.** It says that two operands are
equal exactly when they are the same value, where null counts as absent, up to the number that
decimals and longs stand for. -/
theorem valueOrder_eq_iff (a b : Option Value) :
    valueOrder.compare a b = .ok .eq ↔ (a.getD .null).Identified (b.getD .null) := by
  rw [valueOrder_getD]
  exact ⟨identified_of_valueOrder_eq, valueOrder_eq_of_identified⟩

-- The two zeros differ, and a list with a null at its end is not the list without it.
example : valueOrder.compare (some (.double ⟨0⟩)) (some (.double ⟨0x8000000000000000⟩)) =
    .ok .gt := by decide +kernel

example : valueOrder.compare (some (.list [.null])) (some (.list [])) = .ok .gt := by
  decide +kernel

end Comparator

end RecordDiff
