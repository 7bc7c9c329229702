import RecordDiff.Compare.Keyed

/-!
# The algebra of comparators

Comparators are combined, and a combination can be written in more than one way. The laws here say
when two of them are the same comparator: not only the same order where both have an outcome, but
the same outcome on all operands, absent ones included, and the same error where there is one.
Nothing is asked of the comparators that are combined. They may fail, and they need not be lawful.

That errors are the same is what is delicate, since it depends on who is asked first and on who is
asked at all. All of it comes down to `thenWith`, which stands with an error as it does with a
decision: it is associative, and it may be reversed outcome by outcome.

The comparator of entries is the one combination that looks at its operands as a whole, and so it is
that of its two parts on present entries only: it fails on absent ones, whatever the parts do there.

## Main results

* `Comparison.thenWith_assoc`, `Comparison.reverse_thenWith` - the laws of outcomes
* `Comparator.reversed_nullSafe`, `Comparator.nullSafe_andThen` and the like - one lemma for each law
* `Comparator.combinator_laws` - all of them together
-/

namespace RecordDiff

namespace Comparison

/-! ### Outcomes -/

theorem reverse_reverse (r : Comparison) : r.reverse.reverse = r := by
  cases r with
  | error e => rfl
  | ok o => rw [reverse_ok, reverse_ok, Ordering.swap_swap]

/-- Ties are broken from left to right, however they are grouped. -/
theorem thenWith_assoc (r : Comparison) (s t : Unit → Comparison) :
    (r.thenWith s).thenWith t = r.thenWith fun u => (s u).thenWith t := by
  rcases r with e | _ | _ | _ <;> rfl

/-- What breaks a tie is reversed with what it breaks: reversing leaves ties and errors alone. -/
theorem reverse_thenWith (r : Comparison) (s : Unit → Comparison) :
    (r.thenWith s).reverse = r.reverse.thenWith fun u => (s u).reverse := by
  rcases r with e | _ | _ | _ <;> rfl

end Comparison

namespace Comparator

open Comparison

variable {α κ ν : Type _}

/-! ### Chains and reversal -/

theorem andThen_compare (c next : Comparator α) (first last : Option α) :
    (c.andThen next).compare first last =
      (c.compare first last).thenWith fun _ => next.compare first last := rfl

theorem reversed_compare (c : Comparator α) (first last : Option α) :
    c.reversed.compare first last = (c.compare first last).reverse := rfl

theorem andThen_assoc (a b c : Comparator α) :
    (a.andThen b).andThen c = a.andThen (b.andThen c) := by
  ext first last : 3
  simp only [andThen_compare, thenWith_assoc]

@[simp] theorem reversed_reversed (c : Comparator α) : c.reversed.reversed = c := by
  ext first last : 3
  rw [reversed_compare, reversed_compare, reverse_reverse]

theorem reversed_andThen (a b : Comparator α) :
    (a.andThen b).reversed = a.reversed.andThen b.reversed := by
  ext first last : 3
  rw [reversed_compare, andThen_compare, reverse_thenWith]
  rfl

/-! ### Absent operands -/

theorem swap_absentOrder (nullsLast : Bool) :
    (absentOrder nullsLast).swap = absentOrder !nullsLast := by
  cases nullsLast <;> rfl

/-- What makes a comparator tolerant of absent operands: where it puts them, and which comparator
it leaves present ones to. -/
theorem eq_nullSafe {c d : Comparator α} {nullsLast : Bool} (hnone : d.compare none none = .ok .eq)
    (hfirst : ∀ y, d.compare none (some y) = .ok (absentOrder nullsLast))
    (hlast : ∀ x, d.compare (some x) none = .ok (absentOrder nullsLast).swap)
    (hpresent : ∀ x y, d.compare (some x) (some y) = c.compare (some x) (some y)) :
    d = c.nullSafe nullsLast := by
  ext first last : 3
  cases first with
  | none =>
    cases last with
    | none => exact hnone
    | some y => exact hfirst y
  | some x =>
    cases last with
    | none => exact hlast x
    | some y => exact hpresent x y

/-- Absent operands are placed by the outermost comparator that places them. -/
@[simp] theorem nullSafe_nullSafe (c : Comparator α) (inner outer : Bool) :
    (c.nullSafe inner).nullSafe outer = c.nullSafe outer :=
  eq_nullSafe rfl (fun _ => rfl) (fun _ => rfl) fun _ _ => rfl

/-- Reversing moves absent operands to the other end. -/
theorem reversed_nullSafe (c : Comparator α) (nullsLast : Bool) :
    (c.nullSafe nullsLast).reversed = c.reversed.nullSafe !nullsLast := by
  refine eq_nullSafe rfl (fun y => ?_) (fun x => ?_) fun x y => rfl
  · exact congrArg Except.ok (swap_absentOrder nullsLast)
  · exact congrArg (fun o => Except.ok o.swap) (swap_absentOrder nullsLast)

/-- Two absent operands tie in both comparators, and a single one is decided by the first. -/
theorem nullSafe_andThen (a b : Comparator α) (nullsLast : Bool) :
    (a.andThen b).nullSafe nullsLast = (a.nullSafe nullsLast).andThen (b.nullSafe nullsLast) := by
  symm
  refine eq_nullSafe rfl (fun y => ?_) (fun x => ?_) fun x y => rfl
  · cases nullsLast <;> rfl
  · cases nullsLast <;> rfl

/-! ### Keys -/

theorem byKey_andThen (key : α → κ) (a b : Comparator κ) :
    (a.andThen b).byKey key = (a.byKey key).andThen (b.byKey key) := rfl

theorem byKey_reversed (key : α → κ) (c : Comparator κ) :
    c.reversed.byKey key = (c.byKey key).reversed := rfl

/-- The key of an absent operand is absent, so it does not matter which of the two is placed. -/
theorem byKey_nullSafe (key : α → κ) (c : Comparator κ) (nullsLast : Bool) :
    (c.nullSafe nullsLast).byKey key = (c.byKey key).nullSafe nullsLast :=
  eq_nullSafe rfl (fun _ => rfl) (fun _ => rfl) fun _ _ => rfl

/-- Entries are compared by their keys and then by their values. -/
theorem entry_compare (key : Comparator κ) (value : Comparator ν) (x y : κ × ν) :
    (entry key value).compare (some x) (some y) =
      ((key.byKey Prod.fst).andThen (value.byKey Prod.snd)).compare (some x) (some y) := rfl

/-! ### Views -/

/-- A view refuses an operand whatever the comparator is, or it shows both operands to it. -/
theorem typed_compare (view : View α) (first last : Option Value) :
    (∃ e, ∀ c : Comparator α, (typed view c).compare first last = .error e) ∨
      ∃ x y, ∀ c : Comparator α, (typed view c).compare first last = c.compare x y := by
  simp only [typed]
  cases viewed view first with
  | error e => exact Or.inl ⟨e, fun _ => rfl⟩
  | ok x =>
    cases viewed view last with
    | error e => exact Or.inl ⟨e, fun _ => rfl⟩
    | ok y => exact Or.inr ⟨x, y, fun _ => rfl⟩

theorem typed_andThen (view : View α) (a b : Comparator α) :
    typed view (a.andThen b) = (typed view a).andThen (typed view b) := by
  ext first last : 3
  rcases typed_compare view first last with ⟨e, h⟩ | ⟨x, y, h⟩
  · rw [h, andThen_compare, h, thenWith_error]
  · rw [h, andThen_compare, andThen_compare, h, h]

theorem typed_reversed (view : View α) (c : Comparator α) :
    typed view c.reversed = (typed view c).reversed := by
  ext first last : 3
  rcases typed_compare view first last with ⟨e, h⟩ | ⟨x, y, h⟩
  · rw [h, reversed_compare, h, reverse_error]
  · rw [h, reversed_compare, reversed_compare, h]

/-! ### The laws together -/

/-- **The algebra of comparators.** Whatever the comparators are, chains may be regrouped; reversing
twice does nothing, and a reversed chain is the chain of the reversed ones; absent operands are
placed by the outermost comparator that places them, at the other end when it is reversed, and on
every link of a chain if on the chain; keys and views may be moved into chains, under reversal and,
for keys, under the placing of absent operands; and present entries are ordered by their keys and
then by their values. Both sides have the same outcome on all operands, or the same error. -/
theorem combinator_laws :
    (∀ a b c : Comparator α, (a.andThen b).andThen c = a.andThen (b.andThen c)) ∧
    (∀ c : Comparator α, c.reversed.reversed = c) ∧
    (∀ a b : Comparator α, (a.andThen b).reversed = a.reversed.andThen b.reversed) ∧
    (∀ (c : Comparator α) (f : Bool), (c.nullSafe f).reversed = c.reversed.nullSafe !f) ∧
    (∀ (c : Comparator α) (f g : Bool), (c.nullSafe f).nullSafe g = c.nullSafe g) ∧
    (∀ (a b : Comparator α) (f : Bool),
      (a.andThen b).nullSafe f = (a.nullSafe f).andThen (b.nullSafe f)) ∧
    (∀ (key : α → κ) (a b : Comparator κ),
      (a.andThen b).byKey key = (a.byKey key).andThen (b.byKey key)) ∧
    (∀ (key : α → κ) (c : Comparator κ), c.reversed.byKey key = (c.byKey key).reversed) ∧
    (∀ (key : α → κ) (c : Comparator κ) (f : Bool),
      (c.nullSafe f).byKey key = (c.byKey key).nullSafe f) ∧
    (∀ (view : View α) (a b : Comparator α),
      typed view (a.andThen b) = (typed view a).andThen (typed view b)) ∧
    (∀ (view : View α) (c : Comparator α), typed view c.reversed = (typed view c).reversed) ∧
    (∀ (key : Comparator κ) (value : Comparator ν) (x y : κ × ν),
      (entry key value).compare (some x) (some y) =
        ((key.byKey Prod.fst).andThen (value.byKey Prod.snd)).compare (some x) (some y)) :=
  ⟨andThen_assoc, reversed_reversed, reversed_andThen, reversed_nullSafe, nullSafe_nullSafe,
    nullSafe_andThen, byKey_andThen, byKey_reversed, byKey_nullSafe, typed_andThen, typed_reversed,
    entry_compare⟩

end Comparator

end RecordDiff
