import RecordDiff.Proofs.ScalarOrder

/-!
# Floating point numbers and the numbers that they denote

Floating point numbers are compared by their words, in the total order of words. On words that
denote numbers, the infinities among them, this is the order of the numbers, and of the two zeros
the negative one comes first. NaNs denote no number. They stand outside of all words that do, on the
side of their sign: without a sign they come last, but with their sign bit set they come first, even
before the negative infinity. So it is not the case that NaNs come last.

Why larger magnitudes are larger numbers: a magnitude counts last places, which are those of the
smallest numbers until the significand is full, and twice as large with every further exponent.
Nothing else about the two fields of a word is needed.

## Main definitions

* `FloatFormat.number?` - the number that a word denotes, with the infinities at the two ends
* `Comparator.Before` - an operand comes before another one, in both directions
* `Comparator.OrdersFloats` - numbers in their order, and NaNs outside of them

## Main results

* `FloatFormat.places_mono` - larger magnitudes are larger numbers
* `FloatFormat.orderKey_lt_of_number_lt` - the total order is the order of the numbers
* `Comparator.floats_ordered_by_number` - what floating point numbers are ordered by
-/

namespace RecordDiff

namespace FloatFormat

variable {f : FloatFormat} {m n v w : ℕ}

/-! ### Magnitudes and sizes -/

/-- How many last places of the smallest numbers make up the number of a magnitude. -/
def places (f : FloatFormat) (m : ℕ) : ℕ :=
  if m < 2 ^ f.fractionBits then m
  else (2 ^ f.fractionBits + m % 2 ^ f.fractionBits) * 2 ^ (m / 2 ^ f.fractionBits - 1)

/-- The number of a finite word, apart from its sign. -/
def size (f : FloatFormat) (word : ℕ) : ℚ := f.significand word * 2 ^ f.exponent word

/-- A magnitude stays below the numbers of the next exponent. -/
theorem places_lt (f : FloatFormat) (m : ℕ) :
    f.places m < 2 ^ f.fractionBits * 2 ^ (m / 2 ^ f.fractionBits) := by
  have hfull : 0 < 2 ^ f.fractionBits := Nat.two_pow_pos _
  rw [places]
  split
  · rename_i hm
    rwa [Nat.div_eq_of_lt hm, pow_zero, mul_one]
  · rename_i hm
    have hpos : 0 < m / 2 ^ f.fractionBits := Nat.div_pos (not_lt.mp hm) hfull
    have hsum : 2 ^ f.fractionBits + m % 2 ^ f.fractionBits < 2 ^ f.fractionBits * 2 := by
      have := Nat.mod_lt m hfull
      omega
    calc (2 ^ f.fractionBits + m % 2 ^ f.fractionBits) * 2 ^ (m / 2 ^ f.fractionBits - 1)
        < 2 ^ f.fractionBits * 2 * 2 ^ (m / 2 ^ f.fractionBits - 1) :=
          Nat.mul_lt_mul_of_pos_right hsum (Nat.two_pow_pos _)
      _ = 2 ^ f.fractionBits * 2 ^ (m / 2 ^ f.fractionBits) := by
          rw [mul_assoc, mul_pow_sub_one hpos.ne']

/-- A magnitude with a full significand is at least the first number of its exponent. -/
theorem le_places (hm : 2 ^ f.fractionBits ≤ m) :
    2 ^ f.fractionBits * 2 ^ (m / 2 ^ f.fractionBits - 1) ≤ f.places m := by
  rw [places, if_neg (not_lt.mpr hm)]
  exact Nat.mul_le_mul_right _ (Nat.le_add_right _ _)

/-- Larger magnitudes are larger numbers: within one exponent by the significand, and otherwise by
the exponent. -/
theorem places_mono (f : FloatFormat) : Monotone f.places := by
  intro m n hmn
  have hquot : m / 2 ^ f.fractionBits ≤ n / 2 ^ f.fractionBits := Nat.div_le_div_right hmn
  rcases hquot.lt_or_eq with hlt | heq
  · have hn : 2 ^ f.fractionBits ≤ n := by
      by_contra hsmall
      rw [Nat.div_eq_of_lt (not_le.mp hsmall)] at hlt
      exact absurd hlt (Nat.not_lt_zero _)
    calc f.places m
        ≤ 2 ^ f.fractionBits * 2 ^ (m / 2 ^ f.fractionBits) := (f.places_lt m).le
      _ ≤ 2 ^ f.fractionBits * 2 ^ (n / 2 ^ f.fractionBits - 1) :=
          Nat.mul_le_mul_left _ (Nat.pow_le_pow_right two_pos (Nat.le_sub_one_of_lt hlt))
      _ ≤ f.places n := le_places hn
  · have hdiv : m < 2 ^ f.fractionBits ↔ n < 2 ^ f.fractionBits := by
      rw [← Nat.div_eq_zero_iff_lt (Nat.two_pow_pos _), heq,
        Nat.div_eq_zero_iff_lt (Nat.two_pow_pos _)]
    have hm := Nat.div_add_mod m (2 ^ f.fractionBits)
    have hn := Nat.div_add_mod n (2 ^ f.fractionBits)
    rw [heq] at hm
    rw [places, places, heq]
    by_cases h : n < 2 ^ f.fractionBits
    · rwa [if_pos h, if_pos (hdiv.mpr h)]
    · rw [if_neg h, if_neg (mt hdiv.mp h)]
      exact Nat.mul_le_mul_right _ (by omega)

/-- The number of a word, in last places of the smallest numbers. -/
theorem size_eq (f : FloatFormat) (word : ℕ) :
    f.size word = f.places (f.magnitude word) * 2 ^ f.leastExponent := by
  rw [size, significand, exponent, places, zpow_add₀ two_ne_zero, zpow_natCast]
  split
  · rename_i h
    rw [Nat.div_eq_of_lt h]
    simp
  · push_cast
    ring

theorem size_nonneg (f : FloatFormat) (word : ℕ) : 0 ≤ f.size word :=
  mul_nonneg (Nat.cast_nonneg _) (zpow_nonneg zero_le_two _)

theorem size_le_of_magnitude_le (h : f.magnitude v ≤ f.magnitude w) : f.size v ≤ f.size w := by
  rw [size_eq, size_eq]
  exact mul_le_mul_of_nonneg_right (Nat.cast_le.mpr (f.places_mono h)) (zpow_nonneg zero_le_two _)

/-! ### Numbers -/

/-- The number of a finite word. -/
def finiteNumber (f : FloatFormat) (word : ℕ) : ℚ :=
  if f.isNegative word then -f.size word else f.size word

/-- The number that a word denotes. The infinities are below and above all other numbers, and a NaN
denotes none. -/
def number? (f : FloatFormat) (word : ℕ) : Option (WithBot (WithTop ℚ)) :=
  if f.isNaN word then none
  else if f.isFinite word then some (WithBot.some (WithTop.some (f.finiteNumber word)))
  else some (if f.isNegative word then ⊥ else ⊤)

theorem number?_of_isFinite (h : f.isFinite w = true) :
    f.number? w = some (WithBot.some (WithTop.some (f.finiteNumber w))) := by
  have hnan : f.isNaN w = false :=
    decide_eq_false (not_lt.mpr (of_decide_eq_true h : f.magnitude w < f.infinityWord).le)
  rw [number?, hnan, if_neg Bool.false_ne_true, if_pos h]

theorem number?_of_infinite (h : f.magnitude w = f.infinityWord) :
    f.number? w = some (if f.isNegative w then ⊥ else ⊤) := by
  have hnan : f.isNaN w = false := decide_eq_false h.not_gt
  have hfinite : f.isFinite w = false := decide_eq_false h.not_lt
  rw [number?, hnan, if_neg Bool.false_ne_true, hfinite, if_neg Bool.false_ne_true]

theorem number?_eq_none_iff : f.number? w = none ↔ f.isNaN w = true := by
  rw [number?]
  by_cases hnan : f.isNaN w = true
  · rw [if_pos hnan]
    exact iff_of_true rfl hnan
  · rw [if_neg hnan]
    refine iff_of_false ?_ hnan
    split <;> exact Option.some_ne_none _

/-- A word that denotes a number is finite, or its magnitude is that of the infinities. -/
theorem finite_or_infinite (h : f.number? w ≠ none) :
    f.isFinite w = true ∨ f.magnitude w = f.infinityWord := by
  have hnan : ¬ f.infinityWord < f.magnitude w := fun hlt =>
    h (number?_eq_none_iff.mpr (decide_eq_true hlt))
  exact (not_lt.mp hnan).lt_or_eq.imp_left decide_eq_true

/-- Of two finite words, the one with the smaller key does not denote the larger number. -/
theorem finiteNumber_le_of_orderKey_le (h : f.orderKey v ≤ f.orderKey w) :
    f.finiteNumber v ≤ f.finiteNumber w := by
  have hv := f.size_nonneg v
  have hw := f.size_nonneg w
  rw [finiteNumber, finiteNumber]
  rw [orderKey, orderKey] at h
  cases hsv : f.isNegative v <;> cases hsw : f.isNegative w <;>
    simp only [hsv, hsw, reduceIte, Bool.false_eq_true] at h ⊢
  case false.false => exact size_le_of_magnitude_le (by omega)
  case false.true => omega
  case true.false => exact (neg_nonpos.mpr hv).trans hw
  case true.true => exact neg_le_neg (size_le_of_magnitude_le (by omega))

/-- A number whose magnitude is at least that of the infinities is the infinity of its sign. -/
theorem eq_infinity {p : WithBot (WithTop ℚ)} (hw : f.number? w = some p)
    (h : f.infinityWord ≤ f.magnitude w) : p = if f.isNegative w then ⊥ else ⊤ := by
  rcases finite_or_infinite (hw ▸ Option.some_ne_none p) with hfinite | hinfinite
  · exact absurd (of_decide_eq_true hfinite : f.magnitude w < f.infinityWord) h.not_gt
  · rw [number?_of_infinite hinfinite] at hw
    exact (Option.some.inj hw).symm

/-- A number whose key is at least that of the positive infinity is the positive infinity. -/
theorem eq_top_of_le_orderKey {p : WithBot (WithTop ℚ)} (hw : f.number? w = some p)
    (h : (f.infinityWord : ℤ) ≤ f.orderKey w) : p = ⊤ := by
  rw [orderKey] at h
  cases hsw : f.isNegative w <;> simp only [hsw, reduceIte, Bool.false_eq_true] at h
  case true => omega
  case false =>
    rw [eq_infinity hw (by omega), hsw]
    rfl

/-- A number whose key is at most that of the negative infinity is the negative infinity. -/
theorem eq_bot_of_orderKey_le {p : WithBot (WithTop ℚ)} (hw : f.number? w = some p)
    (h : f.orderKey w ≤ -1 - f.infinityWord) : p = ⊥ := by
  rw [orderKey] at h
  cases hsw : f.isNegative w <;> simp only [hsw, reduceIte, Bool.false_eq_true] at h
  case false => omega
  case true =>
    rw [eq_infinity hw (by omega), hsw]
    rfl

/-- Of two words that denote numbers, the one with the smaller key does not denote the larger
number. -/
theorem number_le_of_orderKey_le {p q : WithBot (WithTop ℚ)} (hv : f.number? v = some p)
    (hw : f.number? w = some q) (h : f.orderKey v ≤ f.orderKey w) : p ≤ q := by
  -- Where one of the words is an infinity at an end, the other one is at that end as well, or the
  -- infinity is the greater or the lesser one of all numbers.
  rcases finite_or_infinite (hv ▸ Option.some_ne_none p) with hfv | hiv
  · rcases finite_or_infinite (hw ▸ Option.some_ne_none q) with hfw | hiw
    · rw [number?_of_isFinite hfv] at hv
      rw [number?_of_isFinite hfw] at hw
      cases hv
      cases hw
      exact WithBot.coe_le_coe.mpr (WithTop.coe_le_coe.mpr (finiteNumber_le_of_orderKey_le h))
    · cases hsw : f.isNegative w
      · have hkey : f.orderKey w = f.infinityWord := by rw [orderKey, hsw, hiw]; rfl
        exact eq_top_of_le_orderKey hw hkey.ge ▸ le_top
      · have hkey : f.orderKey w = -1 - f.infinityWord := by rw [orderKey, hsw, hiw]; rfl
        exact eq_bot_of_orderKey_le hv (h.trans hkey.le) ▸ bot_le
  · cases hsv : f.isNegative v
    · have hkey : f.orderKey v = f.infinityWord := by rw [orderKey, hsv, hiv]; rfl
      exact eq_top_of_le_orderKey hw (hkey.ge.trans h) ▸ le_top
    · have hkey : f.orderKey v = -1 - f.infinityWord := by rw [orderKey, hsv, hiv]; rfl
      exact eq_bot_of_orderKey_le hv hkey.le ▸ bot_le

/-- Of two words that denote numbers, the one with the smaller number has the smaller key. -/
theorem orderKey_lt_of_number_lt {p q : WithBot (WithTop ℚ)} (hv : f.number? v = some p)
    (hw : f.number? w = some q) (h : p < q) : f.orderKey v < f.orderKey w := by
  by_contra hle
  exact absurd (number_le_of_orderKey_le hw hv (not_lt.mp hle)) (not_le.mpr h)

/-! ### Zeros and NaNs -/

theorem orderKey_zero (f : FloatFormat) : f.orderKey 0 = 0 := by
  have hsign : f.isNegative 0 = false := decide_eq_false (Nat.two_pow_pos _).not_ge
  rw [orderKey, hsign, if_neg Bool.false_ne_true, magnitude, Nat.zero_mod]
  rfl

theorem orderKey_negative_zero (f : FloatFormat) : f.orderKey (f.withSign true 0) = -1 := by
  have hsign : f.isNegative (2 ^ f.magnitudeBits) = true := decide_eq_true le_rfl
  rw [withSign, if_pos rfl, Nat.add_zero, orderKey, hsign, if_pos rfl, magnitude, Nat.mod_self]
  rfl

/-- The keys of numbers lie between those of the infinities. -/
theorem orderKey_bounds (h : f.isNaN w = false) :
    -1 - (f.infinityWord : ℤ) ≤ f.orderKey w ∧ f.orderKey w ≤ f.infinityWord := by
  have hle : f.magnitude w ≤ f.infinityWord := not_lt.mp (of_decide_eq_false h)
  rw [orderKey]
  split <;> omega

/-- The key of a NaN lies beyond those of all numbers, on the side of its sign. -/
theorem orderKey_nan (h : f.isNaN w = true) :
    if f.isNegative w then f.orderKey w < -1 - f.infinityWord
    else (f.infinityWord : ℤ) < f.orderKey w := by
  have hlt : f.infinityWord < f.magnitude w := of_decide_eq_true h
  rw [orderKey]
  split <;> omega

end FloatFormat

/-! ### Comparators -/

namespace Comparator

variable {α : Type*} {f : FloatFormat}

/-- `x` comes before `y`, in whichever direction they are compared. -/
def Before (c : Comparator α) (x y : α) : Prop :=
  c.compare (some x) (some y) = .ok .lt ∧ c.compare (some y) (some x) = .ok .gt

/-- The comparator puts the words of a format in the order of their numbers, with NaNs outside of
all that denote numbers. -/
structure OrdersFloats (f : FloatFormat) (word : α → ℕ) (c : Comparator α) : Prop where
  /-- Numbers are in their order, the infinities among them. -/
  numbers {x y : α} {p q : WithBot (WithTop ℚ)} (hx : f.number? (word x) = some p)
    (hy : f.number? (word y) = some q) (h : p < q) : c.Before x y
  /-- The negative zero comes before the positive one. -/
  zeros {x y : α} (hx : word x = f.withSign true 0) (hy : word y = 0) : c.Before x y
  /-- Words are equal to themselves and to no others. -/
  eq_iff (x y : α) : c.compare (some x) (some y) = .ok .eq ↔ x = y
  /-- A NaN comes after a number exactly if its sign bit is not set. -/
  nan_last_iff {x y : α} (hx : f.isNaN (word x) = true) (hy : f.isNaN (word y) = false) :
    c.Before y x ↔ f.isNegative (word x) = false
  /-- It comes before every number if it is. -/
  nan_first {x y : α} (hx : f.isNaN (word x) = true) (hy : f.isNaN (word y) = false)
    (hsign : f.isNegative (word x) = true) : c.Before x y

/-- A comparator that goes by the keys of words has all of it. -/
theorem ordersFloats_of_orderKey {c : Comparator α} {word : α → ℕ}
    (hc : ∀ x y, c.compare (some x) (some y) =
      .ok (Ord.compare (f.orderKey (word x)) (f.orderKey (word y))))
    (hinj : ∀ x y, f.orderKey (word x) = f.orderKey (word y) → x = y) : c.OrdersFloats f word := by
  have before_iff : ∀ x y, c.Before x y ↔ f.orderKey (word x) < f.orderKey (word y) := by
    intro x y
    rw [Before, hc, hc, Except.ok.injEq, Except.ok.injEq, Int.compare_eq_lt, Int.compare_eq_gt,
      and_self]
  refine ⟨fun hx hy h => ?numbers, fun hx hy => ?zeros, fun x y => ?eq, fun hx hy => ?last,
    fun hx hy hsign => ?first⟩
  case numbers => exact (before_iff _ _).mpr (FloatFormat.orderKey_lt_of_number_lt hx hy h)
  case zeros =>
    rw [before_iff, hx, hy, FloatFormat.orderKey_zero, FloatFormat.orderKey_negative_zero]
    decide
  case eq =>
    rw [hc, Except.ok.injEq, Int.compare_eq_eq]
    exact ⟨hinj x y, congrArg fun x => f.orderKey (word x)⟩
  case last =>
    have hnan := FloatFormat.orderKey_nan hx
    have hnumber := FloatFormat.orderKey_bounds hy
    rw [before_iff]
    split at hnan
    · rename_i hsign
      exact iff_of_false (by omega) (by rw [hsign]; exact Bool.noConfusion)
    · rename_i hsign
      exact iff_of_true (by omega) (Bool.not_eq_true _ ▸ hsign)
  case first =>
    have hnan := FloatFormat.orderKey_nan hx
    have hnumber := FloatFormat.orderKey_bounds hy
    rw [if_pos hsign] at hnan
    exact (before_iff _ _).mpr (by omega)

/-- **Floating point numbers are ordered by the numbers that they denote.** In both formats, and also
among values of every kind, the smaller one of two numbers comes first, be they normal, subnormal
or infinite; the negative zero comes before the positive one; no other words are equal than those
that are the same; and a NaN comes after all numbers exactly if its sign bit is not set. A NaN with
its sign bit set comes before all of them. -/
theorem floats_ordered_by_number (label : String) :
    (natural label : Comparator Single).OrdersFloats .single Single.word ∧
    (natural label : Comparator Double).OrdersFloats .double Double.word ∧
    (valueOrder.byKey Value.float).OrdersFloats .single Single.word ∧
    (valueOrder.byKey Value.double).OrdersFloats .double Double.word := by
  have hsingle : ∀ x y : Single, FloatFormat.single.orderKey x.word =
      FloatFormat.single.orderKey y.word → x = y :=
    fun x y h => Std.LawfulEqOrd.eq_of_compare (Int.compare_eq_eq.mpr h)
  have hdouble : ∀ x y : Double, FloatFormat.double.orderKey x.word =
      FloatFormat.double.orderKey y.word → x = y :=
    fun x y h => Std.LawfulEqOrd.eq_of_compare (Int.compare_eq_eq.mpr h)
  exact ⟨ordersFloats_of_orderKey (fun _ _ => rfl) hsingle,
    ordersFloats_of_orderKey (fun _ _ => rfl) hdouble,
    ordersFloats_of_orderKey (fun _ _ => rfl) hsingle,
    ordersFloats_of_orderKey (fun _ _ => rfl) hdouble⟩

/-- The smallest subnormal number comes before infinity, the zeros are apart, and NaNs of both signs
are at both ends. -/
theorem floats_ordered_by_number_ends :
    FloatFormat.double.number? (⟨1⟩ : Double).word =
      some (WithBot.some (WithTop.some (2 ^ (-1074 : ℤ)))) ∧
    FloatFormat.double.number? (⟨0x7FF0000000000000⟩ : Double).word = some ⊤ ∧
    (natural "f64").Before (⟨1⟩ : Double) ⟨0x7FF0000000000000⟩ ∧
    (⟨0x80000000⟩ : Single).word = FloatFormat.single.withSign true 0 ∧
    (valueOrder.byKey Value.float).Before (⟨0x80000000⟩ : Single) ⟨0⟩ ∧
    FloatFormat.double.isNaN (⟨0x7FF8000000000000⟩ : Double).word = true ∧
    FloatFormat.double.isNaN (⟨0xFFF8000000000000⟩ : Double).word = true ∧
    FloatFormat.double.isNaN (⟨0x3FF0000000000000⟩ : Double).word = false ∧
    (natural "f64").Before (⟨0x3FF0000000000000⟩ : Double) ⟨0x7FF8000000000000⟩ ∧
    (natural "f64").Before (⟨0xFFF8000000000000⟩ : Double) ⟨0x3FF0000000000000⟩ := by
  have hsmallest : FloatFormat.double.number? (⟨1⟩ : Double).word =
      some (WithBot.some (WithTop.some (2 ^ (-1074 : ℤ)))) := by
    have hsize : FloatFormat.double.finiteNumber (⟨1⟩ : Double).word =
        ((1 : ℕ) : ℚ) * 2 ^ (-1074 : ℤ) := rfl
    rw [FloatFormat.number?_of_isFinite (by decide), hsize, Nat.cast_one, one_mul]
  have hinfinity : FloatFormat.double.number? (⟨0x7FF0000000000000⟩ : Double).word = some ⊤ :=
    FloatFormat.number?_of_infinite (by decide)
  have hnan : FloatFormat.double.isNaN (⟨0x7FF8000000000000⟩ : Double).word = true := by decide
  have hnegative : FloatFormat.double.isNaN (⟨0xFFF8000000000000⟩ : Double).word = true := by decide
  have hone : FloatFormat.double.isNaN (⟨0x3FF0000000000000⟩ : Double).word = false := by decide
  obtain ⟨-, hdouble, hsingle, -⟩ := floats_ordered_by_number "f64"
  exact ⟨hsmallest, hinfinity,
    hdouble.numbers hsmallest hinfinity (WithBot.coe_lt_coe.mpr (WithTop.coe_lt_top _)), rfl,
    hsingle.zeros rfl rfl, hnan, hnegative, hone,
    (hdouble.nan_last_iff hnan hone).mpr (by decide), hdouble.nan_first hnegative hone (by decide)⟩

/-- A NaN with its sign bit set comes before a number. So not every NaN comes after all numbers. -/
theorem negative_nan_first :
    FloatFormat.double.isNaN (⟨0xFFF8000000000000⟩ : Double).word = true ∧
    FloatFormat.double.isNaN (⟨0x3FF0000000000000⟩ : Double).word = false ∧
    (natural "f64").compare (some (⟨0x3FF0000000000000⟩ : Double)) (some ⟨0xFFF8000000000000⟩) =
      .ok .gt ∧
    ¬ ∀ x y : Double, FloatFormat.double.isNaN x.word = true →
      FloatFormat.double.isNaN y.word = false → (natural "f64").Before y x := by
  have hnan : FloatFormat.double.isNaN (⟨0xFFF8000000000000⟩ : Double).word = true := by decide
  have hnumber : FloatFormat.double.isNaN (⟨0x3FF0000000000000⟩ : Double).word = false := by decide
  have hgreater : (natural "f64").compare (some (⟨0x3FF0000000000000⟩ : Double))
      (some ⟨0xFFF8000000000000⟩) = .ok .gt := by decide
  refine ⟨hnan, hnumber, hgreater, fun h => ?_⟩
  have hless := (h _ _ hnan hnumber).1
  rw [hgreater] at hless
  cases hless

end Comparator

end RecordDiff
