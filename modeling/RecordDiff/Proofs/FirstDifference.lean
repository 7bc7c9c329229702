import RecordDiff.Proofs.Lawful

/-!
# The first difference of two sequences

Sequences are compared along the places that both of them have. The first place whose elements do
not match decides, with whatever outcome the comparator of elements has there; where all of them
match, the lengths decide. Nothing is asked of the comparator: it may fail, and it need not be
lawful. Two absent elements match without being compared, so that a comparator that fails on them
does no harm.

## Main definitions

* `Matching` - two elements that the comparison passes over
* `FirstDifference` - the first place where it does not
* `ByFirstDifference` - the outcome that this place, or its absence, calls for
* `Asked` - the elements that the comparator is asked about

## Main results

* `lexicographic_eq_iff_byFirstDifference` - the outcome is the one that is called for
* `lexicographic_congr` - nothing but what the comparator is asked counts
* `Comparator.sequences_by_first_difference` - the same of the comparators of sequences
-/

namespace RecordDiff

/-- An outcome that is not a tie stands. -/
theorem Comparison.thenWith_of_ne {r : Comparison} (h : r ≠ .ok .eq) (next : Unit → Comparison) :
    r.thenWith next = r := by
  rcases r with e | _ | _ | _
  case ok.eq => exact absurd rfl h
  all_goals rfl

open Comparison

variable {α β ι : Type*}

/-! ### Places -/

/-- Two elements match when both are absent or the comparator finds them equal. -/
def Matching (c : Comparator α) (a b : Option α) : Prop :=
  (a = none ∧ b = none) ∨ c.compare a b = .ok .eq

/-- The elements match at every place before `k` that both sequences have. -/
def MatchingBefore (c : Comparator α) (xs ys : List (Option α)) (k : ℕ) : Prop :=
  ∀ i < k, ∀ a b, xs[i]? = some a → ys[i]? = some b → Matching c a b

/-- The first place whose elements, `a` and `b`, do not match. -/
structure FirstDifference (c : Comparator α) (xs ys : List (Option α)) (k : ℕ) (a b : Option α) :
    Prop where
  first : xs[k]? = some a
  last : ys[k]? = some b
  differs : ¬ Matching c a b
  before : MatchingBefore c xs ys k

/-- The outcome that the first difference of two sequences calls for. -/
inductive ByFirstDifference (c : Comparator α) (xs ys : List (Option α)) : Comparison → Prop
  /-- The comparator decides at the first difference, be it with an order or with an error. -/
  | difference {k : ℕ} {a b : Option α} (h : FirstDifference c xs ys k a b) :
      ByFirstDifference c xs ys (c.compare a b)
  /-- Without a difference the lengths decide. -/
  | lengths (h : ∀ k a b, ¬ FirstDifference c xs ys k a b) :
      ByFirstDifference c xs ys (.ok (compare xs.length ys.length))

/-- The comparator is asked about `a` and `b`: they stand at one place up to the first difference,
and they are not both absent. -/
def Asked (c : Comparator α) (xs ys : List (Option α)) (a b : Option α) : Prop :=
  ¬ (a = none ∧ b = none) ∧
    ∃ k, xs[k]? = some a ∧ ys[k]? = some b ∧ MatchingBefore c xs ys k

section

variable {c d : Comparator α} {a b a' b' : Option α} {xs ys ps qs : List (Option α)} {k : ℕ}

theorem elementOrder_of_present (h : ¬ (a = none ∧ b = none)) :
    elementOrder c a b = c.compare a b := by
  rcases a with _ | x
  · rcases b with _ | y
    · exact absurd ⟨rfl, rfl⟩ h
    · rfl
  · rfl

theorem elementOrder_eq_ok_eq_iff : elementOrder c a b = .ok .eq ↔ Matching c a b := by
  by_cases h : a = none ∧ b = none
  · obtain ⟨rfl, rfl⟩ := h
    exact iff_of_true rfl (Or.inl ⟨rfl, rfl⟩)
  · rw [elementOrder_of_present h, Matching, or_iff_right h]

theorem elementOrder_of_not_matching (h : ¬ Matching c a b) :
    elementOrder c a b = c.compare a b :=
  elementOrder_of_present fun hnone => h (Or.inl hnone)

theorem matchingBefore_zero : MatchingBefore c xs ys 0 := fun _ hi => nomatch hi

/-- Places of longer sequences, one further on. -/
theorem matchingBefore_succ :
    MatchingBefore c (a :: xs) (b :: ys) (k + 1) ↔ Matching c a b ∧ MatchingBefore c xs ys k := by
  constructor
  · intro h
    exact ⟨h 0 k.succ_pos a b rfl rfl, fun i hi => h (i + 1) (Nat.succ_lt_succ hi)⟩
  · rintro ⟨hhead, htail⟩ i hi a' b' ha hb
    cases i with
    | zero =>
      cases ha
      cases hb
      exact hhead
    | succ i => exact htail i (Nat.lt_of_succ_lt_succ hi) a' b' ha hb

theorem FirstDifference.head (h : ¬ Matching c a b) :
    FirstDifference c (a :: xs) (b :: ys) 0 a b :=
  ⟨rfl, rfl, h, matchingBefore_zero⟩

theorem FirstDifference.cons (h : Matching c a b) (htail : FirstDifference c xs ys k a' b') :
    FirstDifference c (a :: xs) (b :: ys) (k + 1) a' b' :=
  ⟨htail.first, htail.last, htail.differs, matchingBefore_succ.mpr ⟨h, htail.before⟩⟩

theorem Asked.cons (h : Matching c a b) (htail : Asked c xs ys a' b') :
    Asked c (a :: xs) (b :: ys) a' b' := by
  obtain ⟨hpresent, k, hfirst, hlast, hbefore⟩ := htail
  exact ⟨hpresent, k + 1, hfirst, hlast, matchingBefore_succ.mpr ⟨h, hbefore⟩⟩

/-! ### The order of sequences -/

theorem lexicographic_cons_of_matching (h : Matching c a b) (xs ys : List (Option α)) :
    lexicographic c (a :: xs) (b :: ys) = lexicographic c xs ys := by
  rw [lexicographic, elementOrder_eq_ok_eq_iff.mpr h, thenWith_eq]

theorem lexicographic_cons_of_not_matching (h : ¬ Matching c a b) (xs ys : List (Option α)) :
    lexicographic c (a :: xs) (b :: ys) = c.compare a b := by
  rw [lexicographic, thenWith_of_ne (mt elementOrder_eq_ok_eq_iff.mp h),
    elementOrder_of_not_matching h]

/-- A common beginning of matching elements can be dropped. -/
theorem lexicographic_append (h : List.Forall₂ (Matching c) ps qs) (xs ys : List (Option α)) :
    lexicographic c (ps ++ xs) (qs ++ ys) = lexicographic c xs ys := by
  induction h with
  | nil => rfl
  | cons hab _ ih =>
    rw [List.cons_append, List.cons_append, lexicographic_cons_of_matching hab, ih]

/-- The comparator's outcome at the first difference is that of the sequences. -/
theorem FirstDifference.lexicographic_eq (h : FirstDifference c xs ys k a b) :
    lexicographic c xs ys = c.compare a b := by
  obtain ⟨hfirst, hlast, hdiffers, hbefore⟩ := h
  induction k generalizing xs ys with
  | zero =>
    obtain ⟨xs, rfl⟩ := List.head?_eq_some_iff.mp (List.head?_eq_getElem?.trans hfirst)
    obtain ⟨ys, rfl⟩ := List.head?_eq_some_iff.mp (List.head?_eq_getElem?.trans hlast)
    exact lexicographic_cons_of_not_matching hdiffers xs ys
  | succ k ih =>
    cases xs with
    | nil => cases hfirst
    | cons x xs =>
      cases ys with
      | nil => cases hlast
      | cons y ys =>
        obtain ⟨hhead, htail⟩ := matchingBefore_succ.mp hbefore
        rw [lexicographic_cons_of_matching hhead]
        exact ih hfirst hlast htail

/-- Without a difference the lengths decide. -/
theorem lexicographic_of_no_difference (h : ∀ k a b, ¬ FirstDifference c xs ys k a b) :
    lexicographic c xs ys = .ok (compare xs.length ys.length) := by
  induction xs generalizing ys with
  | nil => cases ys <;> rfl
  | cons a xs ih =>
    cases ys with
    | nil => rfl
    | cons b ys =>
      have hhead : Matching c a b := by
        by_contra hdiffers
        exact h 0 a b (.head hdiffers)
      have htail : ∀ k a' b', ¬ FirstDifference c xs ys k a' b' :=
        fun k a' b' hd => h (k + 1) a' b' (hd.cons hhead)
      rw [lexicographic_cons_of_matching hhead, ih htail]
      simp only [List.length_cons, Nat.compare_eq_ite_lt, Nat.add_lt_add_iff_right]

/-- **Sequences are ordered by their first difference**, and that determines the outcome. -/
theorem lexicographic_eq_iff_byFirstDifference {r : Comparison} :
    lexicographic c xs ys = r ↔ ByFirstDifference c xs ys r := by
  constructor
  · rintro rfl
    by_cases h : ∃ k a b, FirstDifference c xs ys k a b
    · obtain ⟨k, a, b, h⟩ := h
      exact h.lexicographic_eq ▸ .difference h
    · have hnone : ∀ k a b, ¬ FirstDifference c xs ys k a b := fun k a b hd => h ⟨k, a, b, hd⟩
      exact lexicographic_of_no_difference hnone ▸ .lengths hnone
  · intro h
    cases h with
    | difference h => exact h.lexicographic_eq
    | lengths h => exact lexicographic_of_no_difference h

/-- Sequences fail where their first difference does, and nowhere else. -/
theorem lexicographic_eq_error_iff {e : CompareError} :
    lexicographic c xs ys = .error e ↔
      ∃ k a b, FirstDifference c xs ys k a b ∧ c.compare a b = .error e := by
  constructor
  · intro h
    by_contra hnone
    have hlengths := lexicographic_of_no_difference fun k a b hd =>
      hnone ⟨k, a, b, hd, hd.lexicographic_eq.symm.trans h⟩
    exact nomatch h.symm.trans hlengths
  · rintro ⟨k, a, b, hd, he⟩
    exact hd.lexicographic_eq.trans he

/-- Comparators that agree on what one of them is asked about order the sequences alike. -/
theorem lexicographic_congr (h : ∀ a b, Asked c xs ys a b → d.compare a b = c.compare a b) :
    lexicographic d xs ys = lexicographic c xs ys := by
  induction xs generalizing ys with
  | nil => cases ys <;> rfl
  | cons a xs ih =>
    cases ys with
    | nil => rfl
    | cons b ys =>
      have hhead : elementOrder d a b = elementOrder c a b := by
        by_cases hnone : a = none ∧ b = none
        · obtain ⟨rfl, rfl⟩ := hnone
          rfl
        · rw [elementOrder_of_present hnone, elementOrder_of_present hnone]
          exact h a b ⟨hnone, 0, rfl, rfl, matchingBefore_zero⟩
      rw [lexicographic, lexicographic, hhead]
      by_cases hmatching : Matching c a b
      · rw [elementOrder_eq_ok_eq_iff.mpr hmatching, thenWith_eq, thenWith_eq]
        exact ih fun a' b' hasked => h a' b' (hasked.cons hmatching)
      · have hdecided := mt elementOrder_eq_ok_eq_iff.mp hmatching
        rw [thenWith_of_ne hdecided, thenWith_of_ne hdecided]

end

/-! ### Comparators of sequences -/

namespace Comparator

/-- The comparator `s` puts present operands, which `view` sees as sequences, in the order of their
first difference according to `c`. -/
def OrdersByFirstDifference (view : β → List (Option α)) (c : Comparator α) (s : Comparator β) :
    Prop :=
  ∀ u v r, s.compare (some u) (some v) = r ↔ ByFirstDifference c (view u) (view v) r

theorem ordersByFirstDifference_ofPresent (label : String) (view : β → List (Option α))
    (c : Comparator α) :
    OrdersByFirstDifference view c
      (ofPresent label fun u v => lexicographic c (view u) (view v)) :=
  fun _ _ _ => lexicographic_eq_iff_byFirstDifference

theorem lengthFirst_compare (c : Comparator α) (us vs : List α) :
    (lengthFirst c).compare (some us) (some vs) =
      Comparison.thenWith (.ok (Ord.compare us.length vs.length)) fun _ =>
        (array c).compare (some us) (some vs) := rfl

/-- **Every sequence comparison rests on the first difference.** For every comparator of elements,
lawful or not, two sequences of elements that may be absent have the comparator's own outcome at
the first place where the elements do not match, and without such a place the outcome of their
lengths. So they fail only if the comparator fails at their first difference; what it says of any
elements that it is not asked about does not count; and a common beginning of matching elements can
be dropped. Arrays, arrays with holes, lists of values and containers are all ordered so, and arrays
by length first are if they have one length, and by their lengths alone if not. -/
theorem sequences_by_first_difference (c : Comparator α) (e : Comparator Value) :
    (∀ xs ys r, lexicographic c xs ys = r ↔ ByFirstDifference c xs ys r) ∧
    (∀ xs ys error, lexicographic c xs ys = .error error ↔
      ∃ k a b, FirstDifference c xs ys k a b ∧ c.compare a b = .error error) ∧
    (∀ (d : Comparator α) (xs ys : List (Option α)),
      (∀ a b, Asked c xs ys a b → d.compare a b = c.compare a b) →
        lexicographic d xs ys = lexicographic c xs ys) ∧
    (∀ ps qs, List.Forall₂ (Matching c) ps qs → ∀ xs ys,
      lexicographic c (ps ++ xs) (qs ++ ys) = lexicographic c xs ys) ∧
    OrdersByFirstDifference (List.map some) c (array c) ∧
    OrdersByFirstDifference id c (objectArray c) ∧
    OrdersByFirstDifference (List.map Value.present?) e (list e) ∧
    (∀ elements : ι → List α,
      OrdersByFirstDifference (fun u => (elements u).map some) c (iterable elements c)) ∧
    (∀ (us vs : List α) (r : Comparison), us.length = vs.length →
      ((lengthFirst c).compare (some us) (some vs) = r ↔
        ByFirstDifference c (us.map some) (vs.map some) r)) ∧
    (∀ us vs : List α, us.length ≠ vs.length →
      (lengthFirst c).compare (some us) (some vs) = .ok (Ord.compare us.length vs.length)) := by
  refine ⟨fun xs ys r => lexicographic_eq_iff_byFirstDifference,
    fun xs ys error => lexicographic_eq_error_iff, fun d xs ys h => lexicographic_congr h,
    fun ps qs h xs ys => lexicographic_append h xs ys,
    ordersByFirstDifference_ofPresent "array" (List.map some) c,
    ordersByFirstDifference_ofPresent "object array" id c,
    ordersByFirstDifference_ofPresent "list" (List.map Value.present?) e,
    fun elements => ordersByFirstDifference_ofPresent "iterable" _ c, ?same, ?other⟩
  case same =>
    intro us vs r h
    rw [lengthFirst_compare, Nat.compare_eq_eq.mpr h, thenWith_eq]
    exact lexicographic_eq_iff_byFirstDifference
  case other =>
    intro us vs h
    rw [lengthFirst_compare]
    exact thenWith_of_ne (fun heq => h (Nat.compare_eq_eq.mp (Except.ok.inj heq))) _

/-- Numbers, none of which may be absent. -/
def plainNumbers : Comparator ℕ := natural "number"

/-- Arrays with holes. A hole behind the first difference is not compared, nor is one with a hole
opposite it, so a comparator that puts holes last gives the same. A hole at the first difference
fails. Then arrays of one length and of two. -/
theorem sequences_by_first_difference_holes :
    FirstDifference plainNumbers [some 1, none, some 2, none] [some 1, none, some 3, some 4] 2
      (some 2) (some 3) ∧
    (objectArray plainNumbers).compare (some [some 1, none, some 2, none])
      (some [some 1, none, some 3, some 4]) = .ok .lt ∧
    lexicographic (plainNumbers.nullSafe true) [some 1, none, some 2, none]
      [some 1, none, some 3, some 4] =
      lexicographic plainNumbers [some 1, none, some 2, none] [some 1, none, some 3, some 4] ∧
    lexicographic plainNumbers [some 1, none, some 2, none] [some 1, none, some 3, some 4] =
      lexicographic plainNumbers [some 2, none] [some 3, some 4] ∧
    FirstDifference plainNumbers [some 1, none] [some 1, some 4] 1 none (some 4) ∧
    (objectArray plainNumbers).compare (some [some 1, none]) (some [some 1, some 4]) =
      .error (.absent "number") ∧
    [7, 1].length = [7, 2].length ∧
    (lengthFirst plainNumbers).compare (some [7, 1]) (some [7, 2]) = .ok .lt ∧
    [9].length ≠ [7, 2].length ∧
    (lengthFirst plainNumbers).compare (some [9]) (some [7, 2]) = .ok .lt := by
  have hhead : Matching plainNumbers (some 1) (some 1) := .inr rfl
  have hhole : Matching plainNumbers none none := .inl ⟨rfl, rfl⟩
  have hnumbers : ¬ Matching plainNumbers (some 2) (some 3) := by
    rintro (⟨h, -⟩ | h) <;> cases h
  have hmissing : ¬ Matching plainNumbers none (some 4) := by
    rintro (⟨-, h⟩ | h) <;> cases h
  have hlast : ¬ Matching plainNumbers (some 1) (some 2) := by
    rintro (⟨h, -⟩ | h) <;> cases h
  have hcompared : FirstDifference plainNumbers [some 1, none, some 2, none]
      [some 1, none, some 3, some 4] 2 (some 2) (some 3) :=
    .cons hhead (.cons hhole (.head hnumbers))
  have hgap : FirstDifference plainNumbers [some 1, none] [some 1, some 4] 1 none (some 4) :=
    .cons hhead (.head hmissing)
  have hsecond : FirstDifference plainNumbers ([7, 1].map some) ([7, 2].map some) 1 (some 1)
      (some 2) := .cons (.inr rfl) (.head hlast)
  have hasked : ∀ a b,
      Asked plainNumbers [some 1, none, some 2, none] [some 1, none, some 3, some 4] a b →
        (plainNumbers.nullSafe true).compare a b = plainNumbers.compare a b := by
    rintro a b ⟨hpresent, k, ha, hb, hbefore⟩
    rcases k with _ | _ | _ | k
    · cases ha
      cases hb
      rfl
    · cases ha
      cases hb
      exact absurd ⟨rfl, rfl⟩ hpresent
    · cases ha
      cases hb
      rfl
    · exact absurd (hbefore 2 (by omega) _ _ rfl rfl) hnumbers
  obtain ⟨-, -, hcongr, hdropped, -, hobjects, -, -, hsame, hother⟩ :=
    sequences_by_first_difference (ι := ℕ) plainNumbers valueOrder
  exact ⟨hcompared, (hobjects _ _ _).mpr (.difference hcompared), hcongr _ _ _ hasked,
    hdropped [some 1, none] [some 1, none] (.cons hhead (.cons hhole .nil)) _ _, hgap,
    (hobjects _ _ _).mpr (.difference hgap), rfl,
    (hsame [7, 1] [7, 2] _ rfl).mpr (.difference hsecond), by decide, hother _ _ (by decide)⟩

end Comparator

end RecordDiff
