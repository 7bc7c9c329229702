import RecordDiff.Text.Ranges

/-!
# Blank characters and trimming

The blank characters are those with the property `White_Space`. `trim` drops them from both ends
of a text and leaves the inside as it is.

## Main definitions

* `isBlank` - the property
* `trim` - the text without blanks at its ends
-/

namespace RecordDiff.Text

/-- Blank code points, as intervals. -/
def blankRanges : List (Nat × Nat) :=
  [(9, 13), (32, 32), (133, 133), (160, 160), (5760, 5760), (8192, 8202), (8232, 8233),
   (8239, 8239), (8287, 8287), (12288, 12288)]

/-- The character is blank. -/
def isBlank (c : Char) : Bool := inRanges blankRanges c

/-- The characters without the blanks at both ends. -/
def trimChars (cs : List Char) : List Char :=
  ((cs.dropWhile isBlank).reverse.dropWhile isBlank).reverse

/-- The text without the blanks at both ends. -/
def trim (s : String) : String := String.ofList (trimChars s.toList)

theorem toList_trim (s : String) : (trim s).toList = trimChars s.toList := by
  simp [trim]

end RecordDiff.Text
