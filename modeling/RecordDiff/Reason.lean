import RecordDiff.Number.Digits

/-!
# Reasons of failures

The reason why an instance has no document form is a text. It may end in the place of the failure,
as in `unexpected end at line 3 column 14`. A place has the numbers of its line and its column
without leading zeros, and line zero means that no place is known.

## Main definitions

* `Reason.ofText` - message and place of a written reason
* `Reason.text` - the reason as it is shown
-/

namespace RecordDiff

/-- A message and the place of the failure. -/
structure Reason where
  message : String
  line : Nat
  column : Nat
  deriving DecidableEq, Repr, Inhabited

namespace Reason

/-- What stands between the message and the number of the line. -/
def lineMark : String := " at line "

/-- What stands between the numbers of the line and the column. -/
def columnMark : String := " column "

/-- The numbers of lines and columns lie below this bound. -/
def bound : Nat := UInt64.size

/-- A number at the end of a text that is given last character first, and what stands before the
number and the mark in front of it. -/
def takeNumber? (mark : String) (reversed : List Char) : Option (Nat × List Char) :=
  let digits := (reversed.takeWhile Digits.isDigit).reverse
  let before := reversed.dropWhile Digits.isDigit
  let n := Digits.value digits
  if digits.isEmpty || bound ≤ n || !mark.toList.reverse.isPrefixOf before then none
  else some (n, before.drop mark.length)

/-- The message and the place at the end of a text. -/
def place? (s : String) : Option Reason := do
  let (column, beforeColumn) ← takeNumber? columnMark s.toList.reverse
  let (line, beforeLine) ← takeNumber? lineMark beforeColumn
  return ⟨String.ofList beforeLine.reverse, line, column⟩

/-- The reason that a text gives; without a place at its end it is all message. -/
def ofText (s : String) : Reason := (place? s).getD ⟨s, 0, 0⟩

/-- The message, and the place if it is known. -/
def text (r : Reason) : String :=
  if r.line = 0 then r.message
  else
    r.message ++ lineMark ++ Digits.intText r.line ++ columnMark ++ Digits.intText r.column

end Reason

end RecordDiff
