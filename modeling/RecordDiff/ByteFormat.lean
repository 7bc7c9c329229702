import RecordDiff.Locale
import RecordDiff.Number.Digits

/-!
# Bytes written as text

A byte format says which texts denote a number between -128 and 127. A strict format takes an
optional minus and digits. A lenient one also takes blanks around the number, a plus in front of
it, and a grouping character anywhere among the digits.

## Main definitions

* `ByteFormat` - strictness and grouping character, with `ByteFormat.strictForm`,
  `ByteFormat.lenientForm`, `ByteFormat.withLocale` and `ByteFormat.withGrouping`
* `ByteFormat.parse?` - the number that a text denotes
-/

namespace RecordDiff

/-- How a byte may be written. -/
structure ByteFormat where
  strict : Bool
  grouping : Char
  deriving DecidableEq, Repr, Inhabited

namespace ByteFormat

/-- Only a minus and digits. -/
def strictForm : ByteFormat := ⟨true, ','⟩

/-- Blanks, a plus and grouping commas as well. -/
def lenientForm : ByteFormat := { strictForm with strict := false }

/-- Languages that group digits with a point. -/
def pointLanguages : List String := ["de", "es", "it", "nl", "pt", "id"]

/-- Languages that group digits with a space. -/
def spaceLanguages : List String := ["fr", "ru", "pl", "cs", "sv", "fi", "nb"]

/-- The grouping character of a language, a comma unless it is known to have another one. -/
def groupingOf (language : String) : Char :=
  if language ∈ pointLanguages then '.'
  else if language ∈ spaceLanguages then ' '
  else ','

/-- Uses the grouping character of the locale's language. -/
def withLocale (f : ByteFormat) (l : Locale) : ByteFormat :=
  { f with grouping := groupingOf l.language }

/-- Uses a grouping character. -/
def withGrouping (f : ByteFormat) (grouping : Char) : ByteFormat := { f with grouping }

/-! ### Reading -/

/-- The text starts with a sign. -/
def startsWithSign : List Char → Bool
  | '+' :: _ => true
  | '-' :: _ => true
  | _ => false

/-- What a lenient format makes of a text: blanks around it, one plus and all grouping characters
are dropped. A second sign after the plus is refused. -/
def lenientBody? (grouping : Char) (cs : List Char) : Option (List Char) :=
  match Text.trimChars cs with
  | '+' :: rest => if startsWithSign rest then none else some (rest.filter (· != grouping))
  | trimmed => some (trimmed.filter (· != grouping))

/-- The text that has to be a number in strict form. -/
def body? (f : ByteFormat) (cs : List Char) : Option (List Char) :=
  if f.strict then some cs else lenientBody? f.grouping cs

/-- The number written by an optional minus and at least one digit. -/
def strictNumber? : List Char → Option Int
  | '-' :: digits =>
    if digits.isEmpty || !digits.all Digits.isDigit then none else some (-(Digits.value digits : Int))
  | digits =>
    if digits.isEmpty || !digits.all Digits.isDigit then none else some (Digits.value digits)

/-- The number as a word of 64 bits, if it fits one. -/
def wordOf? (n : Int) : Option Int64 :=
  if Int64.minValue.toInt ≤ n ∧ n ≤ Int64.maxValue.toInt then some (Int64.ofInt n) else none

/-- The word as a byte, if it is one. -/
def byteOf? (n : Int64) : Option Int8 :=
  if -128 ≤ n ∧ n ≤ 127 then some n.toInt8 else none

/-- The number that a text denotes. It is read as a word before it is taken for a byte. -/
def parse? (f : ByteFormat) (s : String) : Option Int8 :=
  (((f.body? s.toList).bind strictNumber?).bind wordOf?).bind byteOf?

/-! ### Bounds -/

/-- The byte is not below `low`. -/
def atLeast (value low : Int8) : Bool := low ≤ value

/-- The byte is not above `high`. -/
def atMost (value high : Int8) : Bool := value ≤ high

/-- The byte lies between two bounds. -/
def inRange (value low high : Int8) : Bool := atLeast value low && atMost value high

end ByteFormat

end RecordDiff
