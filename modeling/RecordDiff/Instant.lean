import RecordDiff.Number.Digits

/-!
# Instants

An instant is a count of seconds since the first of January 1970 and a fraction of a second in
nanoseconds. During a leap second the fraction counts on past the second before it, so that it
lies between one and two times `10 ^ 9`.

## Main definitions

* `Instant.date` - the calendar date of a day
* `Instant.text` - date and time to the second
* `Instant.preciseText` - date and time with the fraction that the instant has
-/

namespace RecordDiff

/-- Seconds since the start of 1970 and nanoseconds past them. -/
structure Instant where
  seconds : Int
  nanos : Nat
  deriving DecidableEq, Repr, Inhabited

/-- A day of the proleptic calendar. -/
structure Date where
  year : Int
  month : Nat
  day : Nat
  deriving DecidableEq, Repr

namespace Instant

/-- Earlier seconds come first, then smaller fractions. -/
def order (a b : Instant) : Ordering :=
  (compare a.seconds b.seconds).then (compare a.nanos b.nanos)

instance : Ord Instant := ⟨order⟩

/-- The date that lies `days` days after the first of January 1970. Years are counted from March,
so that the leap day is the last of its year, in cycles of four centuries. -/
def date (days : Int) : Date :=
  let shifted := days + 719468
  let cycle := shifted / 146097
  let dayOfCycle := (shifted % 146097).toNat
  let yearOfCycle :=
    (dayOfCycle - dayOfCycle / 1460 + dayOfCycle / 36524 - dayOfCycle / 146096) / 365
  let dayOfYear := dayOfCycle - (365 * yearOfCycle + yearOfCycle / 4 - yearOfCycle / 100)
  let monthFromMarch := (5 * dayOfYear + 2) / 153
  let day := dayOfYear - (153 * monthFromMarch + 2) / 5 + 1
  let month := if monthFromMarch < 10 then monthFromMarch + 3 else monthFromMarch - 9
  let year : Int := yearOfCycle + cycle * 400
  ⟨if month ≤ 2 then year + 1 else year, month, day⟩

/-- A year has at least four digits, and a sign when it lies outside `0` to `9999`. -/
def yearChars (year : Int) : List Char :=
  let digits := Digits.padded 4 year.natAbs
  if year < 0 then '-' :: digits else if 9999 < year then '+' :: digits else digits

/-- The fraction of a second with the fewest of none, three, six or nine places that write it
exactly. -/
def fractionChars (nanos : Nat) : List Char :=
  if nanos = 0 then []
  else if nanos % 1000000 = 0 then '.' :: Digits.padded 3 (nanos / 1000000)
  else if nanos % 1000 = 0 then '.' :: Digits.padded 6 (nanos / 1000)
  else '.' :: Digits.padded 9 nanos

/-- Date and time to the second. A leap second is the second sixty of its minute. -/
def clockChars (t : Instant) : List Char :=
  let d := date (t.seconds / 86400)
  let secondOfDay := (t.seconds % 86400).toNat
  let leap := if t.nanos < 1000000000 then 0 else 1
  yearChars d.year ++ ['-'] ++ Digits.padded 2 d.month ++ ['-'] ++ Digits.padded 2 d.day ++ ['T'] ++
    Digits.padded 2 (secondOfDay / 3600) ++ [':'] ++
    Digits.padded 2 (secondOfDay / 60 % 60) ++ [':'] ++
    Digits.padded 2 (secondOfDay % 60 + leap)

/-- Date and time to the second, in the zone `Z`. -/
def text (t : Instant) : String := String.ofList (t.clockChars ++ ['Z'])

/-- Date and time with the fraction, in the zone `+00:00`. -/
def preciseText (t : Instant) : String :=
  String.ofList
    (t.clockChars ++ fractionChars (t.nanos % 1000000000) ++ ['+', '0', '0', ':', '0', '0'])

end Instant

end RecordDiff
