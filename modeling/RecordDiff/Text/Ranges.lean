/-!
# Classes of code points given by intervals

A property of characters is a list of closed intervals of code points. The tables of the library
are such lists, and `inRanges` is the only way they are read.
-/

namespace RecordDiff.Text

/-- The code point of `c` lies in one of the closed intervals. -/
def inRanges (ranges : List (Nat × Nat)) (c : Char) : Bool :=
  ranges.any fun r => r.1 ≤ c.toNat && c.toNat ≤ r.2

theorem inRanges_eq_true_iff {ranges : List (Nat × Nat)} {c : Char} :
    inRanges ranges c = true ↔ ∃ r ∈ ranges, r.1 ≤ c.toNat ∧ c.toNat ≤ r.2 := by
  simp [inRanges]

end RecordDiff.Text
