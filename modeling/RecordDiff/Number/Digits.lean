/-!
# Decimal digits

Numbers as lists of decimal digits, and the two ways in which a number `d · 10 ^ k` is laid out:
positionally, with a point among the digits, or with one digit before the point and an exponent.

## Main definitions

* `Digits.ofNat`, `Digits.intText` - the digits of a number
* `Digits.value` - the number that a list of digits denotes
* `Digits.positional`, `Digits.scientific` - the two layouts
-/

namespace RecordDiff.Digits

/-- The decimal digits of a number, without leading zeros. -/
def ofNat (n : Nat) : List Char := Nat.toDigits 10 n

/-- An integer in decimal, with a minus sign when it is negative. -/
def intChars (n : Int) : List Char :=
  if n < 0 then '-' :: ofNat n.natAbs else ofNat n.natAbs

/-- An integer in decimal, with a minus sign when it is negative. -/
def intText (n : Int) : String := String.ofList (intChars n)

/-- The character is one of the ten decimal digits. -/
def isDigit (c : Char) : Bool := '0' ≤ c && c ≤ '9'

/-- The number that a digit stands for. -/
def digitValue (c : Char) : Nat := c.toNat - '0'.toNat

/-- The number that a list of digits denotes, after the digits already read as `start`. -/
def valueFrom (start : Nat) (cs : List Char) : Nat :=
  cs.foldl (fun n c => n * 10 + digitValue c) start

/-- The number that a list of digits denotes. -/
def value (cs : List Char) : Nat := valueFrom 0 cs

/-- Digits padded on the left with zeros to at least `width` places. -/
def padded (width n : Nat) : List Char :=
  List.replicate (width - (ofNat n).length) '0' ++ ofNat n

/-! ### Layouts of `d · 10 ^ k` -/

/-- The number `digits · 10 ^ k` with all its places. A whole number gets the places `.0` when
`wholePoint` asks for them. -/
def positional (wholePoint : Bool) (digits : List Char) (k : Int) : List Char :=
  if 0 ≤ k then
    digits ++ List.replicate k.toNat '0' ++ (if wholePoint then ['.', '0'] else [])
  else
    let places := (-k).toNat
    if places < digits.length then
      digits.take (digits.length - places) ++ ['.'] ++ digits.drop (digits.length - places)
    else
      ['0', '.'] ++ List.replicate (places - digits.length) '0' ++ digits

/-- The decimal exponent of `digits · 10 ^ k` when one digit stands before the point. -/
def leadingExponent (digits : List Char) (k : Int) : Int := k + digits.length - 1

/-- One digit, the point and the others, without the point when there are no others. -/
def mantissa : List Char → List Char
  | [] => []
  | [d] => [d]
  | d :: rest => d :: '.' :: rest

/-- The number `digits · 10 ^ k` with one digit before the point, the mark and the exponent.
`plus` is written before an exponent that is not negative. -/
def scientific (mark : Char) (plus : List Char) (digits : List Char) (k : Int) : List Char :=
  let e := leadingExponent digits k
  mantissa digits ++ [mark] ++ (if 0 ≤ e then plus else []) ++ intChars e

end RecordDiff.Digits
