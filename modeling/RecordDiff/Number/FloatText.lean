import RecordDiff.Number.Decimal
import RecordDiff.Number.FloatFormat

/-!
# Floating point numbers as text

The digits of a finite number are the fewest that read back as the same word. They are found in
exact arithmetic: the reals that round to a word form an interval, and the coarsest decimal grid
with a point in that interval is used, of two such points the one nearer to the number.

How the digits are laid out is a `FloatLayout`: `FloatLayout.plain` never writes an exponent,
`FloatLayout.data` does so for very large and very small numbers.

## Main definitions

* `FloatFormat.shortest` - the digits and their decimal exponent
* `FloatLayout` - the choices of a written form
* `FloatFormat.text` - the written form of a word
* `FloatFormat.ofText?` - the word nearest to a written number
-/

namespace RecordDiff

-- `^` is the power of the core library here, also where monoids are in scope.
attribute [local instance (high)] instPowNat

namespace FloatFormat

variable (f : FloatFormat)

/-! ### The interval of a word -/

/-- Four times the significand of the lower end of the interval that rounds to the word. The
number below a power of two is twice as close as the one above. -/
def lowerEnd (word : Nat) : Nat :=
  let m := f.significand word
  if m = 2 ^ f.fractionBits && f.leastExponent < f.exponent word then 4 * m - 1 else 4 * m - 2

/-- Four times the significand of the upper end of the interval that rounds to the word. -/
def upperEnd (word : Nat) : Nat := 4 * f.significand word + 2

/-- The decimal point `c · 10 ^ k` lies in the interval of reals that round to the word; its ends
belong to it when the significand is even. -/
def readsBack (word c : Nat) (k : Int) : Bool :=
  let s := f.exponent word - 2
  let point := c * 10 ^ k.toNat * 2 ^ (-s).toNat
  let place := 2 ^ s.toNat * 10 ^ (-k).toNat
  let low := f.lowerEnd word * place
  let high := f.upperEnd word * place
  if f.significand word % 2 = 0 then low ≤ point && point ≤ high else low < point && point < high

/-! ### Shortest digits -/

/-- The decimal exponent of the first digit of `num / den`, which is not zero. -/
def leadingPlace (num den : Nat) : Int :=
  if den ≤ num then (Digits.ofNat (num / den)).length - 1
  else -((Digits.ofNat ((den + num - 1) / num - 1)).length : Int)

/-- The point of the grid `10 ^ k` next to the word's number that reads back, if there is one. Of
two points the nearer one is taken, and `tieUp` decides between two equally near ones: the upper
one, or the even one. -/
def gridPoint? (tieUp : Bool) (word : Nat) (k : Int) : Option Nat :=
  let (num, den) := f.ratio word
  let n := num * 10 ^ (-k).toNat
  let d := den * 10 ^ k.toNat
  let c := n / d
  match f.readsBack word c k, f.readsBack word (c + 1) k with
  | false, false => none
  | true, false => some c
  | false, true => some (c + 1)
  | true, true =>
    match compare (2 * n) ((2 * c + 1) * d) with
    | .lt => some c
    | .gt => some (c + 1)
    | .eq => some (if tieUp || c % 2 == 1 then c + 1 else c)

/-- As many decimal digits as tell any two words apart. -/
def mostDigits : Nat := (f.fractionBits + 1) * 30103 / 100000 + 2

/-- The fewest digits `c` and the exponent `k` such that `c · 10 ^ k` reads back as the word, which
is finite and not zero. -/
def shortest (tieUp : Bool) (word : Nat) : Nat × Int :=
  let (num, den) := f.ratio word
  let place := leadingPlace num den
  let found := (List.range f.mostDigits).findSome? fun (n : Nat) =>
    (f.gridPoint? tieUp word (place - n)).map fun c => (c, place - (n : Int))
  found.getD (0, 0)

/-- Moves the zeros at the end of the digits into the exponent. -/
def dropZeros (digits : List Char) (k : Int) : List Char × Int :=
  let kept := (digits.reverse.dropWhile (· == '0')).reverse
  (kept, k + (digits.length - kept.length : Nat))

/-- The shortest digits of a finite word and their exponent; zero has the digit `0`. -/
def shortestDigits (tieUp : Bool) (word : Nat) : List Char × Int :=
  if f.magnitude word = 0 then (['0'], 0)
  else
    let (c, k) := f.shortest tieUp word
    dropZeros (Digits.ofNat c) k

end FloatFormat

/-! ### Layout -/

/-- The choices of a written form: which of two equally near digit strings is used, between which
decimal exponents all places are written, and whether a whole number ends in `.0`. -/
structure FloatLayout where
  tieUp : Bool
  positionalExponents : Option (Int × Int)
  wholePoint : Bool
  deriving DecidableEq, Repr

namespace FloatLayout

/-- All places are written whatever the exponent, and a whole number has no point. -/
def plain : FloatLayout := ⟨true, none, false⟩

/-- All places are written between `0.00001` and sixteen digits before the point, and every number
written so has a point; others have an exponent. -/
def data : FloatLayout := ⟨false, some (-5, 15), true⟩

/-- Digits and exponent in this layout. -/
def write (l : FloatLayout) (digits : List Char) (k : Int) : List Char :=
  let e := Digits.leadingExponent digits k
  match l.positionalExponents with
  | none => Digits.positional l.wholePoint digits k
  | some (low, high) =>
    if low ≤ e && e ≤ high then Digits.positional l.wholePoint digits k
    else Digits.scientific 'e' ['+'] digits k

end FloatLayout

namespace FloatFormat

variable (f : FloatFormat)

/-- The written form of a word. A NaN has no sign. -/
def text (l : FloatLayout) (word : Nat) : String :=
  if f.isNaN word then "NaN"
  else
    let body :=
      if f.isFinite word then
        let (digits, k) := f.shortestDigits l.tieUp word
        l.write digits k
      else ['i', 'n', 'f']
    String.ofList (if f.isNegative word then '-' :: body else body)

/-! ### Reading -/

/-- The magnitude of the word nearest to a decimal, apart from its sign. A power of ten that lies
beyond all finite words, or makes the number less than half of the smallest word, is not
computed. -/
def nearestDecimal (d : Decimal) : Nat :=
  let c := d.coefficient.natAbs
  if c = 0 then 0
  else if 2 ^ (f.exponentBits - 1) ≤ -d.scale then f.infinityWord
  else if c.log2 + 2 - f.leastExponent ≤ d.scale then 0
  else f.nearest (c * 10 ^ (-d.scale).toNat) (10 ^ d.scale.toNat)

/-- The word nearest to a written number, or an infinity written `inf`. A minus sign is kept even
before zero. -/
def ofText? (s : String) : Option Nat :=
  let (negative, rest) := Decimal.takeSign s.toList
  let magnitude? :=
    if rest = ['i', 'n', 'f'] then some f.infinityWord
    else (Decimal.unsigned? rest).map fun (n, scale) => f.nearestDecimal ⟨n, scale⟩
  magnitude?.map (f.withSign negative)

end FloatFormat

/-- The number with all its places. -/
def Single.text (x : Single) : String := FloatFormat.single.text .plain x.word

/-- The single nearest to a written number. -/
def Single.ofText? (s : String) : Option Single :=
  (FloatFormat.single.ofText? s).map Single.ofWord

/-- The number with all its places. -/
def Double.text (x : Double) : String := FloatFormat.double.text .plain x.word

/-- The double nearest to a written number. -/
def Double.ofText? (s : String) : Option Double :=
  (FloatFormat.double.ofText? s).map Double.ofWord

end RecordDiff
