import RecordDiff.Compare.Library
import Mathlib.Algebra.Order.Field.Rat
import Mathlib.Algebra.Order.Field.Basic
import Mathlib.Order.Compare
import Mathlib.Tactic.Ring

/-!
# The orders of scalars

The order of every type of scalar is a total preorder, and it tells two scalars apart unless they
are the same - with one exception: decimals of one number but different scales are equal.

Floating point numbers are ordered by a key of their words. That no two words share a key is what
keeps the zeros and the NaNs of a format apart.

## Main definitions

* `Decimal.value` - the number that a decimal stands for

## Main results

* `Decimal.compare_eq` - decimals are ordered by the numbers that they stand for
* `FloatFormat.orderKey_inj` - a word is found again from its key
* `Decimal.compare_ofInt_toInt` - longs are ordered as the decimals that they are
* `lexicographic_natural` - arrays are ordered as lists are
-/

namespace RecordDiff

/-! ### Decimals -/

namespace Decimal

/-- The number that a decimal stands for, whatever its scale. -/
def value (d : Decimal) : ℚ := d.coefficient * 10 ^ (-d.scale)

@[simp] theorem value_ofInt (n : ℤ) : (ofInt n).value = n := by simp [value, ofInt]

/-- A coefficient brought to the scale `t`. -/
theorem coefficient_mul_pow (d : Decimal) {t : ℤ} (h : d.scale ≤ t) :
    ((d.coefficient * 10 ^ (t - d.scale).toNat : ℤ) : ℚ) = d.value * 10 ^ t := by
  have hpow : (10 : ℚ) ^ (t - d.scale).toNat = 10 ^ (-d.scale) * 10 ^ t := by
    rw [← zpow_natCast, Int.toNat_of_nonneg (by omega), ← zpow_add₀ (by norm_num)]
    congr 1
    ring
  push_cast
  rw [hpow, value, mul_assoc]

/-- Decimals are ordered by the numbers that they stand for. -/
theorem compare_eq (a b : Decimal) : compare a b = compare a.value b.value := by
  have ha := a.coefficient_mul_pow (le_max_left a.scale b.scale)
  have hb := b.coefficient_mul_pow (le_max_right a.scale b.scale)
  have hpos : (0 : ℚ) < 10 ^ max a.scale b.scale := zpow_pos (by norm_num) _
  have hsa : (max a.scale b.scale - a.scale).toNat = (b.scale - a.scale).toNat := by omega
  have hsb : (max a.scale b.scale - b.scale).toNat = (a.scale - b.scale).toNat := by omega
  rw [hsa] at ha
  rw [hsb] at hb
  calc compare a b
      = compare (a.coefficient * 10 ^ (b.scale - a.scale).toNat)
          (b.coefficient * 10 ^ (a.scale - b.scale).toNat) := order_eq a b
    _ = cmp (a.value * 10 ^ max a.scale b.scale) (b.value * 10 ^ max a.scale b.scale) := by
        rw [← ha, ← hb, Int.cast_strictMono.cmp_map_eq, cmp_eq_compare]
    _ = compare a.value b.value := by rw [cmp_mul_pos_right hpos, cmp_eq_compare]

instance : Std.TransOrd Decimal where
  eq_swap {a b} := by
    rw [compare_eq, compare_eq]
    exact Std.OrientedOrd.eq_swap
  isLE_trans {a b d} hab hbd := by
    rw [compare_eq] at hab hbd ⊢
    exact Std.TransCmp.isLE_trans hab hbd

theorem compare_eq_eq_iff {a b : Decimal} : compare a b = .eq ↔ a.value = b.value := by
  rw [compare_eq, Std.compare_eq_iff_eq]

/-- Longs are ordered as the decimals that they are. -/
theorem compare_ofInt_toInt (m n : Int64) :
    compare (ofInt m.toInt) (ofInt n.toInt) = compare m n := by
  have h : compare m n = compare m.toInt n.toInt := by
    change compareOfLessAndEq m n = compareOfLessAndEq m.toInt n.toInt
    simp only [compareOfLessAndEq, Int64.lt_iff_toInt_lt, Int64.toInt_inj]
  rw [h]
  exact order_ofInt _ _

end Decimal

/-! ### Floating point numbers -/

namespace FloatFormat

variable {f : FloatFormat} {v w : ℕ}

/-- A word is its magnitude, above the sign bit when that is set. -/
theorem eq_withSign (hv : v < 2 * 2 ^ f.magnitudeBits) :
    v = f.withSign (f.isNegative v) (f.magnitude v) := by
  unfold withSign isNegative magnitude
  split
  · rename_i h
    have h : 2 ^ f.magnitudeBits ≤ v := of_decide_eq_true h
    rw [Nat.mod_eq_sub_mod h, Nat.mod_eq_of_lt (by omega)]
    omega
  · rename_i h
    have h : ¬ 2 ^ f.magnitudeBits ≤ v := fun hle => h (decide_eq_true hle)
    rw [Nat.mod_eq_of_lt (by omega)]

/-- A word is found again from its key: the sign of the key is that of the word. -/
theorem orderKey_inj (hv : v < 2 * 2 ^ f.magnitudeBits) (hw : w < 2 * 2 ^ f.magnitudeBits)
    (h : f.orderKey v = f.orderKey w) : v = w := by
  have hfields : f.isNegative v = f.isNegative w ∧ f.magnitude v = f.magnitude w := by
    cases hsv : f.isNegative v <;> cases hsw : f.isNegative w <;>
      simp only [orderKey, hsv, hsw, reduceIte, Bool.false_eq_true] at h
    case false.false => exact ⟨rfl, by omega⟩
    case true.true => exact ⟨rfl, by omega⟩
    all_goals omega
  rw [eq_withSign hv, eq_withSign hw, hfields.1, hfields.2]

end FloatFormat

theorem Single.word_lt (x : Single) : x.word < 2 * 2 ^ FloatFormat.single.magnitudeBits :=
  x.bits.toNat_lt

theorem Double.word_lt (x : Double) : x.word < 2 * 2 ^ FloatFormat.double.magnitudeBits :=
  x.bits.toNat_lt

instance : Std.TransOrd Single :=
  inferInstanceAs (Std.TransCmp (compareOn fun x : Single => FloatFormat.single.orderKey x.word))

instance : Std.TransOrd Double :=
  inferInstanceAs (Std.TransCmp (compareOn fun x : Double => FloatFormat.double.orderKey x.word))

instance : Std.LawfulEqOrd Single where
  eq_of_compare {x y} h := by
    have hword : x.word = y.word :=
      FloatFormat.orderKey_inj x.word_lt y.word_lt (Std.LawfulEqOrd.eq_of_compare h)
    rcases x with ⟨x⟩
    rcases y with ⟨y⟩
    exact congrArg _ (UInt32.toNat_inj.mp hword)

instance : Std.LawfulEqOrd Double where
  eq_of_compare {x y} h := by
    have hword : x.word = y.word :=
      FloatFormat.orderKey_inj x.word_lt y.word_lt (Std.LawfulEqOrd.eq_of_compare h)
    rcases x with ⟨x⟩
    rcases y with ⟨y⟩
    exact congrArg _ (UInt64.toNat_inj.mp hword)

/-! ### Locales and instants -/

instance : Std.TransOrd Locale :=
  inferInstanceAs (Std.TransCmp (compareOn Locale.tag))

instance : Std.LawfulEqOrd Locale where
  eq_of_compare {a b} h := by
    rcases a with ⟨a⟩
    rcases b with ⟨b⟩
    exact congrArg _ (Std.LawfulEqOrd.eq_of_compare h)

instance : Std.TransOrd Instant :=
  inferInstanceAs (Std.TransCmp (compareLex (compareOn Instant.seconds) (compareOn Instant.nanos)))

instance : Std.LawfulEqOrd Instant where
  eq_of_compare {a b} h := by
    obtain ⟨hs, hn⟩ := Ordering.then_eq_eq.mp h
    rcases a with ⟨s, n⟩
    rcases b with ⟨s', n'⟩
    rw [Instant.mk.injEq]
    exact ⟨Std.LawfulEqOrd.eq_of_compare hs, Std.LawfulEqOrd.eq_of_compare hn⟩

/-! ### Arrays -/

/-- Arrays are ordered by their first difference as lists are. The order of a type does not fail on
present elements, so neither does this one. -/
theorem lexicographic_natural {α : Type*} [Ord α] (label : String) (xs ys : List α) :
    lexicographic (Comparator.natural label) (xs.map some) (ys.map some) =
      .ok (compare xs ys) := by
  induction xs generalizing ys with
  | nil => cases ys <;> rfl
  | cons x xs ih =>
    cases ys with
    | nil => rfl
    | cons y ys =>
      rw [List.map_cons, List.map_cons, lexicographic, ih, List.compare_cons_cons]
      change Comparison.thenWith (.ok (compare x y)) _ = _
      cases compare x y <;> rfl

end RecordDiff
