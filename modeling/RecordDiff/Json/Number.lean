import RecordDiff.Json.Basic
import RecordDiff.Number.Digits

/-!
# Numbers in JSON text

A number without a point and an exponent is a whole number as long as it fits 64 bits, with or
without a sign; minus zero and every other number is a double.

A double is computed from a significand of 64 bits, into which digits are taken as long as they
fit, and a power of ten, with one rounding for the significand and one for each scaling. Digits
beyond the significand only count places. A number beyond the finite doubles is refused.

## Main definitions

* `Json.Numeral` - the parts of a written number
* `Json.Numeral.toJson?` - its value
* `Json.takeNumeral?` - reading the parts
-/

namespace RecordDiff.Json

-- `^` is the power of the core library here, also where monoids are in scope.
attribute [local instance (high)] instPowNat

/-- The parts of a written number: digits before and after the point and the exponent. A number
without a point has no digits after it, one without an exponent has none there. -/
structure Numeral where
  negative : Bool
  whole : List Char
  fraction : List Char
  exponent : Option Int
  deriving DecidableEq, Repr

/-- Takes digits into a significand as long as it stays below `2 ^ 64`; the digits that are left
come second. -/
def absorb (significand : Nat) : List Char → Nat × List Char
  | [] => (significand, [])
  | c :: rest =>
    let next := significand * 10 + Digits.digitValue c
    if next < UInt64.size then absorb next rest else (significand, c :: rest)

/-- The largest power of ten that one scaling step uses. -/
def scalingStep : Nat := 308

/-- The power of ten as a double. -/
def tenPower (n : Nat) : Double := Double.ofNat (10 ^ n)

/-- Divides by `10 ^ n` in steps that are finite powers of ten. -/
def scaleDown (x : Double) (n : Nat) : Double :=
  if n ≤ scalingStep then Double.divMagnitudes x (tenPower n)
  else if x.word = 0 then x
  else scaleDown (Double.divMagnitudes x (tenPower scalingStep)) (n - scalingStep)
termination_by n
decreasing_by
  simp only [scalingStep] at *
  omega

/-- The magnitude `significand · 10 ^ exponent`, or nothing when it is not finite. -/
def magnitude? (significand : Nat) (exponent : Int) : Option Double :=
  let x := Double.ofNat significand
  if exponent < 0 then some (scaleDown x exponent.natAbs)
  else if x.word = 0 then some x
  else if exponent ≤ scalingStep then
    let y := Double.mulMagnitudes x (tenPower exponent.toNat)
    if y.isFinite then some y else none
  else none

/-- A magnitude with a sign. -/
def signed (negative : Bool) (x : Double) : Double := if negative then x.negated else x

namespace Numeral

/-- The significand of the digits and the exponent that goes with it. -/
def scaled (n : Numeral) : Nat × Int :=
  let (s, dropped) := absorb 0 n.whole
  let (t, left) := absorb s n.fraction
  (t, (dropped.length : Int) - (n.fraction.length - left.length : Nat) + n.exponent.getD 0)

/-- The value of a number written with a point or an exponent, or with too many digits. -/
def double? (n : Numeral) : Option Json :=
  let (s, e) := n.scaled
  (magnitude? s e).map fun x => .double (signed n.negative x)

/-- The value of a written number. -/
def toJson? (n : Numeral) : Option Json :=
  if n.fraction.isEmpty && n.exponent.isNone && (absorb 0 n.whole).2.isEmpty then
    let v := Digits.value n.whole
    if n.negative then
      if v = 0 || 2 ^ (63 : Nat) < v then some (.double (Double.ofNat v).negated)
      else some (.integer (-(v : Int)))
    else some (.integer v)
  else n.double?

end Numeral

/-! ### Reading the parts -/

/-- The digits before the point: a single zero, or digits that do not start with one. -/
def takeWhole? : List Char → Option (List Char × List Char)
  | '0' :: rest =>
    match rest with
    | c :: _ => if Digits.isDigit c then none else some (['0'], rest)
    | [] => some (['0'], [])
  | cs =>
    let digits := cs.takeWhile Digits.isDigit
    if digits.isEmpty then none else some (digits, cs.dropWhile Digits.isDigit)

/-- The digits after the point, of which there is one at least if there is a point. -/
def takeFraction? : List Char → Option (List Char × List Char)
  | '.' :: rest =>
    let digits := rest.takeWhile Digits.isDigit
    if digits.isEmpty then none else some (digits, rest.dropWhile Digits.isDigit)
  | cs => some ([], cs)

/-- The sign of an exponent, if there is one: whether it is a minus, and what follows. -/
def takeExponentSign : List Char → Bool × List Char
  | '-' :: rest => (true, rest)
  | '+' :: rest => (false, rest)
  | cs => (false, cs)

/-- The exponent, with one digit at least if there is its mark. -/
def takeExponent? : List Char → Option (Option Int × List Char)
  | [] => some (none, [])
  | c :: rest =>
    if c == 'e' || c == 'E' then
      let (negative, more) := takeExponentSign rest
      let digits := more.takeWhile Digits.isDigit
      if digits.isEmpty then none
      else
        let v : Int := Digits.value digits
        some (some (if negative then -v else v), more.dropWhile Digits.isDigit)
    else some (none, c :: rest)

/-- The minus sign, if there is one. -/
def takeMinus : List Char → Bool × List Char
  | '-' :: rest => (true, rest)
  | cs => (false, cs)

/-- The longest number at the start, and what follows it. -/
def takeNumeral? (cs : List Char) : Option (Numeral × List Char) := do
  let (negative, afterSign) := takeMinus cs
  let (whole, afterWhole) ← takeWhole? afterSign
  let (fraction, afterFraction) ← takeFraction? afterWhole
  let (exponent, rest) ← takeExponent? afterFraction
  return (⟨negative, whole, fraction, exponent⟩, rest)

end RecordDiff.Json
