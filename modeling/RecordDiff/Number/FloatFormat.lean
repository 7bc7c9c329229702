/-!
# Binary floating point numbers as words

A format splits a word into a sign, an exponent field and a fraction field. Everything here is
about words as natural numbers: which number a word denotes, which of two words comes first in the
total order, and which word is nearest to a quotient of two naturals.

## Main definitions

* `FloatFormat` - the widths of the two fields, with `FloatFormat.single` and `FloatFormat.double`
* `FloatFormat.significand`, `FloatFormat.exponent` - the number `significand · 2 ^ exponent` that
  a finite word denotes, apart from its sign
* `FloatFormat.orderKey` - the total order: negative words come first, in falling magnitude
* `FloatFormat.nearest` - the word nearest to a quotient
* `Single`, `Double` - the words of the two formats
-/

namespace RecordDiff

/-- The widths of the fraction field and the exponent field of a word. -/
structure FloatFormat where
  fractionBits : Nat
  exponentBits : Nat
  deriving DecidableEq, Repr

namespace FloatFormat

-- `^` is the power of the core library here, also where monoids are in scope.
attribute [local instance (high)] instPowNat

/-- Words of 32 bits. -/
def single : FloatFormat := ⟨23, 8⟩

/-- Words of 64 bits. -/
def double : FloatFormat := ⟨52, 11⟩

variable (f : FloatFormat)

/-- The number of bits below the sign. -/
def magnitudeBits : Nat := f.fractionBits + f.exponentBits

/-- The magnitude of the infinities: a full exponent field and an empty fraction. -/
def infinityWord : Nat := (2 ^ f.exponentBits - 1) * 2 ^ f.fractionBits

/-- The exponent of the last place of the smallest numbers. -/
def leastExponent : Int := 2 - 2 ^ (f.exponentBits - 1) - f.fractionBits

/-! ### Fields of a word -/

/-- The sign bit is set. -/
def isNegative (word : Nat) : Bool := 2 ^ f.magnitudeBits ≤ word

/-- The word without its sign bit. -/
def magnitude (word : Nat) : Nat := word % 2 ^ f.magnitudeBits

/-- The word denotes no number. -/
def isNaN (word : Nat) : Bool := f.infinityWord < f.magnitude word

/-- The word denotes a finite number. -/
def isFinite (word : Nat) : Bool := f.magnitude word < f.infinityWord

/-- The integer whose multiple by a power of two is the number, apart from the sign. -/
def significand (word : Nat) : Nat :=
  if f.magnitude word < 2 ^ f.fractionBits then f.magnitude word
  else 2 ^ f.fractionBits + f.magnitude word % 2 ^ f.fractionBits

/-- The power of two that the significand is multiplied by. -/
def exponent (word : Nat) : Int :=
  f.leastExponent + (f.magnitude word / 2 ^ f.fractionBits - 1 : Nat)

/-! ### Order and equality -/

/-- The key of the total order: a negative word lies below all others, further down the larger
its magnitude. -/
def orderKey (word : Nat) : Int :=
  if f.isNegative word then -1 - (f.magnitude word : Int) else f.magnitude word

/-- The words denote the same number: none is a NaN, and they agree or are both zero. -/
def sameNumber (a b : Nat) : Bool :=
  !f.isNaN a && !f.isNaN b && (a == b || (f.magnitude a == 0 && f.magnitude b == 0))

/-! ### Rounding -/

/-- The integer nearest to `num / den`; of two, the even one. -/
def roundHalfEven (num den : Nat) : Nat :=
  let low := num / den
  let twice := 2 * (num % den)
  if den < twice || (twice == den && low % 2 == 1) then low + 1 else low

/-- Numerator and denominator of `(num / den) / 2 ^ q`. -/
def scaledDown (num den : Nat) (q : Int) : Nat × Nat :=
  (num * 2 ^ (-q).toNat, den * 2 ^ q.toNat)

/-- The exponent of the last place of the numbers next to `num / den`. -/
def placeOf (num den : Nat) : Int :=
  let guess : Int := (num.log2 : Int) - den.log2 - f.fractionBits
  let (n, d) := scaledDown num den guess
  max f.leastExponent (if n / d < 2 ^ f.fractionBits then guess - 1 else guess)

/-- The magnitude of the word nearest to `num / den`, to the even one of two; a quotient beyond the
finite numbers gives the infinity. -/
def nearest (num den : Nat) : Nat :=
  if num = 0 then 0
  else
    let q := f.placeOf num den
    let (n, d) := scaledDown num den q
    min f.infinityWord ((q - f.leastExponent).toNat * 2 ^ f.fractionBits + roundHalfEven n d)

/-- The word with a sign put before its magnitude. -/
def withSign (negative : Bool) (magnitude : Nat) : Nat :=
  if negative then 2 ^ f.magnitudeBits + magnitude else magnitude

/-- Numerator and denominator of a finite word's number, apart from its sign. -/
def ratio (word : Nat) : Nat × Nat :=
  let e := f.exponent word
  (f.significand word * 2 ^ e.toNat, 2 ^ (-e).toNat)

end FloatFormat

/-! ### The words of the two formats -/

/-- A floating point number of 32 bits. -/
structure Single where
  bits : UInt32
  deriving DecidableEq, Repr, Inhabited

/-- A floating point number of 64 bits. -/
structure Double where
  bits : UInt64
  deriving DecidableEq, Repr, Inhabited

namespace Single

/-- The word as a natural number. -/
def word (x : Single) : Nat := x.bits.toNat

/-- The number with these bits. -/
def ofWord (n : Nat) : Single := ⟨UInt32.ofNat n⟩

/-- The total order of the words. -/
def order (x y : Single) : Ordering :=
  compare (FloatFormat.single.orderKey x.word) (FloatFormat.single.orderKey y.word)

instance : Ord Single := ⟨order⟩

/-- Both denote the same number; a NaN denotes none. -/
def sameNumber (x y : Single) : Bool := FloatFormat.single.sameNumber x.word y.word

end Single

namespace Double

/-- The word as a natural number. -/
def word (x : Double) : Nat := x.bits.toNat

/-- The number with these bits. -/
def ofWord (n : Nat) : Double := ⟨UInt64.ofNat n⟩

/-- The total order of the words. -/
def order (x y : Double) : Ordering :=
  compare (FloatFormat.double.orderKey x.word) (FloatFormat.double.orderKey y.word)

instance : Ord Double := ⟨order⟩

/-- Both denote the same number; a NaN denotes none. -/
def sameNumber (x y : Double) : Bool := FloatFormat.double.sameNumber x.word y.word

/-- The word denotes a finite number. -/
def isFinite (x : Double) : Bool := FloatFormat.double.isFinite x.word

/-- The finite number of 32 bits as the number of 64 bits that it is exactly. -/
def ofSingle (x : Single) : Double :=
  let (num, den) := FloatFormat.single.ratio x.word
  ofWord (FloatFormat.double.withSign (FloatFormat.single.isNegative x.word)
    (FloatFormat.double.nearest num den))

/-- The double nearest to a natural number. -/
def ofNat (n : Nat) : Double := ofWord (FloatFormat.double.nearest n 1)

/-- The double nearest to the product of two finite magnitudes. -/
def mulMagnitudes (x y : Double) : Double :=
  let (a, b) := FloatFormat.double.ratio x.word
  let (c, d) := FloatFormat.double.ratio y.word
  ofWord (FloatFormat.double.nearest (a * c) (b * d))

/-- The double nearest to the quotient of two finite magnitudes, the second not zero. -/
def divMagnitudes (x y : Double) : Double :=
  let (a, b) := FloatFormat.double.ratio x.word
  let (c, d) := FloatFormat.double.ratio y.word
  ofWord (FloatFormat.double.nearest (a * d) (b * c))

/-- The number with its sign bit set. -/
def negated (x : Double) : Double :=
  ofWord (FloatFormat.double.withSign true (FloatFormat.double.magnitude x.word))

end Double

end RecordDiff
