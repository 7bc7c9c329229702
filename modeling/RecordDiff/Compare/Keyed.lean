import RecordDiff.Compare.Sequence

/-!
# Rankings and entries

Keys can be ordered by a rank that is looked up for each of them, and pairs of a key and a value by
the key first.

## Main definitions

* `Comparator.ranking` - keys by their rank
* `Comparator.entry` - pairs by key, then by value
-/

namespace RecordDiff

variable {κ ν ρ : Type _}

/-- The rank of a key: that of its last pair. -/
def rank? [BEq κ] (pairs : List (κ × ρ)) (key : κ) : Option ρ := pairs.reverse.lookup key

namespace Comparator

/-- Orders keys by their ranks. A key without a rank is an error, the first operand's before the
last one's; `describe` says how the error names it. -/
def ranking [BEq κ] (describe : κ → String) (pairs : List (κ × ρ)) (ranks : Comparator ρ) :
    Comparator κ :=
  ofPresent "map key" fun a b =>
    match rank? pairs a, rank? pairs b with
    | none, _ => .error (.keyNotFound (describe a))
    | some _, none => .error (.keyNotFound (describe b))
    | some r, some s => ranks.compare (some r) (some s)

/-- Orders pairs by their keys, and those with equal keys by their values. -/
def entry (key : Comparator κ) (value : Comparator ν) : Comparator (κ × ν) :=
  ofPresent "map entry" fun a b =>
    (key.compare (some a.1) (some b.1)).thenWith fun _ => value.compare (some a.2) (some b.2)

end Comparator

end RecordDiff
