import RecordDiff.Number.Digits

/-!
# Decimal numbers

A decimal is a coefficient and a scale and stands for `coefficient · 10 ^ (-scale)`. Numbers that
are equal may have different scales, as `1.5` and `1.50` do: the order and the test for the same
number look at the number alone, the text keeps the scale.

## Main definitions

* `Decimal.order` - the order by number
* `Decimal.text` - the written form
* `Decimal.ofText?` - reading a written form

## Main results

* `Decimal.order_eq` - the order is that of the coefficients at a common scale
-/

namespace RecordDiff

/-- The number `coefficient · 10 ^ (-scale)`. -/
structure Decimal where
  coefficient : Int
  scale : Int
  deriving DecidableEq, Repr, Inhabited

namespace Decimal

-- `^` is the power of the core library here, also where monoids are in scope.
attribute [local instance (high)] instPowNat

/-- An integer as a decimal of scale zero. -/
def ofInt (n : Int) : Decimal := ⟨n, 0⟩

/-- The order of `m · 10 ^ places` and `n`. Where the power alone exceeds `n` it is not computed: the
sign of `m` decides, and that of `n` if `m` is zero. -/
def shiftedOrder (m : Int) (places : Nat) (n : Int) : Ordering :=
  if n.natAbs.log2 < places then (compare m 0).then (compare 0 n)
  else compare (m * 10 ^ places) n

/-- The order by number: the coefficient of the smaller scale is brought to the larger one. -/
def order (a b : Decimal) : Ordering :=
  if a.scale ≤ b.scale then shiftedOrder a.coefficient (b.scale - a.scale).toNat b.coefficient
  else (shiftedOrder b.coefficient (a.scale - b.scale).toNat a.coefficient).swap

instance : Ord Decimal := ⟨order⟩

/-- The two decimals are the same number. -/
def sameNumber (a b : Decimal) : Bool := order a b == .eq

/-- A number below a power of two lies below that power of ten. -/
theorem natAbs_lt_ten_pow {n : Int} {places : Nat} (h : n.natAbs.log2 < places) :
    (n.natAbs : Int) < 10 ^ places := by
  have h2 : n.natAbs < 2 ^ places :=
    Nat.lt_of_lt_of_le Nat.lt_log2_self (Nat.pow_le_pow_right (by decide) h)
  have h10 : n.natAbs < 10 ^ places :=
    Nat.lt_of_lt_of_le h2 (Nat.pow_le_pow_left (by decide) places)
  exact_mod_cast h10

/-- The shortcut gives the order of the two numbers. -/
theorem shiftedOrder_eq (m : Int) (places : Nat) (n : Int) :
    shiftedOrder m places n = compare (m * 10 ^ places) n := by
  unfold shiftedOrder
  split
  · rename_i h
    have hp := natAbs_lt_ten_pow h
    generalize (10 : Int) ^ places = p at hp
    rcases Int.lt_trichotomy m 0 with hm | hm | hm
    · have hle : m * p ≤ (-1) * p := Int.mul_le_mul_of_nonneg_right (by omega) (by omega)
      have hlt : m * p < n := by omega
      rw [Int.compare_eq_lt.2 hm, Int.compare_eq_lt.2 hlt]
      rfl
    · subst hm
      simp
    · have hle : 1 * p ≤ m * p := Int.mul_le_mul_of_nonneg_right (by omega) (by omega)
      have hgt : n < m * p := by omega
      rw [Int.compare_eq_gt.2 hm, Int.compare_eq_gt.2 hgt]
      rfl
  · rfl

/-- The order is that of the coefficients brought to the larger scale. -/
theorem order_eq (a b : Decimal) :
    order a b = compare (a.coefficient * 10 ^ (b.scale - a.scale).toNat)
      (b.coefficient * 10 ^ (a.scale - b.scale).toNat) := by
  unfold order
  split
  · rename_i h
    have hz : (a.scale - b.scale).toNat = 0 := by omega
    simp [shiftedOrder_eq, hz]
  · rename_i h
    have hz : (b.scale - a.scale).toNat = 0 := by omega
    rw [shiftedOrder_eq, hz, Int.compare_swap]
    simp

@[simp] theorem order_ofInt (m n : Int) : order (ofInt m) (ofInt n) = compare m n := by
  simp [order_eq, ofInt]

/-! ### Written form -/

/-- More zeros than these at the end of a whole number are written as an exponent. -/
def mostTrailingZeros : Int := 15

/-- More zeros than these between the point and the digits are written as an exponent. -/
def mostLeadingZeros : Int := 5

/-- The written form of a coefficient's digits: whole numbers end in zeros or in an exponent with
its sign, small fractions have one digit before the point and an exponent. -/
def magnitudeChars (digits : List Char) (scale : Int) : List Char :=
  if scale ≤ 0 then
    if -scale ≤ mostTrailingZeros then Digits.positional false digits (-scale)
    else digits ++ ['e', '+'] ++ Digits.intChars (-scale)
  else if scale - digits.length > mostLeadingZeros then
    Digits.scientific 'E' ['+'] digits (-scale)
  else Digits.positional false digits (-scale)

/-- The written form. Zero is `0` whatever its scale. -/
def text (d : Decimal) : String :=
  if d.coefficient = 0 then "0"
  else
    let body := magnitudeChars (Digits.ofNat d.coefficient.natAbs) d.scale
    String.ofList (if d.coefficient < 0 then '-' :: body else body)

/-! ### Reading -/

/-- A sign at the start, if there is one: whether it is a minus, and what follows it. -/
def takeSign : List Char → Bool × List Char
  | '-' :: rest => (true, rest)
  | '+' :: rest => (false, rest)
  | cs => (false, cs)

/-- An exponent: nothing, or a mark, a sign and digits up to the end. -/
def exponent? : List Char → Option Int
  | [] => some 0
  | c :: rest =>
    if c == 'e' || c == 'E' then
      let (negative, digits) := takeSign rest
      if digits.isEmpty || !digits.all Digits.isDigit then none
      else some (if negative then -(Digits.value digits : Int) else Digits.value digits)
    else none

/-- Digits, perhaps a point among them, and perhaps an exponent. The digits after the point count
into the scale. -/
def unsigned? (cs : List Char) : Option (Nat × Int) :=
  let whole := cs.takeWhile Digits.isDigit
  let afterWhole := cs.dropWhile Digits.isDigit
  let (fraction, rest) := match afterWhole with
    | '.' :: more => (more.takeWhile Digits.isDigit, more.dropWhile Digits.isDigit)
    | more => ([], more)
  if (whole ++ fraction).isEmpty then none
  else (exponent? rest).map fun e => (Digits.value (whole ++ fraction), fraction.length - e)

/-- Reads a number with an optional sign, an optional fraction and an optional exponent. -/
def ofText? (s : String) : Option Decimal :=
  let (negative, rest) := takeSign s.toList
  (unsigned? rest).map fun (n, scale) => ⟨if negative then -(n : Int) else n, scale⟩

end Decimal

end RecordDiff
