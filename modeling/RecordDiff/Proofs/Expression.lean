import RecordDiff.Proofs.ValueOrder

/-!
# Comparators built from comparators

A comparator that a caller writes down is a tree: comparators of its own at the leaves, and above
them the ways in which this library makes a comparator of others, each over a type of its own. The
tree says nothing about failure, which may come from every node. Still, when the leaves are lawful
the whole comparator is.

## Main definitions

* `Comparator.Expr` - trees of combinations
* `Comparator.Expr.eval` - the comparator that a tree stands for
* `Comparator.Expr.LeavesLawful` - all comparators at the leaves are lawful

## Main results

* `Comparator.Expr.lawful_eval` - combinations of lawful comparators are lawful
* `Comparator.combinations_lawful` - the same, with the leaves that the library provides
-/

namespace RecordDiff.Comparator

/-! ### Trees of combinations -/

/-- A comparator as it is put together. -/
inductive Expr : Type → Type 1
  /-- A comparator that is given. -/
  | leaf {α : Type} (c : Comparator α) : Expr α
  /-- The comparator behind a shared pointer. -/
  | shared {α : Type} (e : Expr α) : Expr α
  /-- The comparator behind a pointer of its own. -/
  | boxed {α : Type} (e : Expr α) : Expr α
  | nullSafe {α : Type} (e : Expr α) (nullsLast : Bool) : Expr α
  | reversed {α : Type} (e : Expr α) : Expr α
  | andThen {α : Type} (e next : Expr α) : Expr α
  | byKey {α κ : Type} (key : α → κ) (e : Expr κ) : Expr α
  | typed {α : Type} (view : View α) (e : Expr α) : Expr Value
  | array {α : Type} (e : Expr α) : Expr (List α)
  | lengthFirst {α : Type} (e : Expr α) : Expr (List α)
  | objectArray {α : Type} (e : Expr α) : Expr (List (Option α))
  | list (e : Expr Value) : Expr (List Value)
  | iterable {α ι : Type} (elements : ι → List α) (e : Expr α) : Expr ι
  | ranking {κ ρ : Type} [BEq κ] (describe : κ → String) (pairs : List (κ × ρ)) (ranks : Expr ρ) :
      Expr κ
  | entry {κ ν : Type} (key : Expr κ) (value : Expr ν) : Expr (κ × ν)

namespace Expr

/-- The comparator that a tree stands for. A pointer passes the operands on. -/
def eval : {α : Type} → Expr α → Comparator α
  | _, .leaf c => c
  | _, .shared e => ⟨e.eval.compare⟩
  | _, .boxed e => ⟨e.eval.compare⟩
  | _, .nullSafe e nullsLast => e.eval.nullSafe nullsLast
  | _, .reversed e => e.eval.reversed
  | _, .andThen e next => e.eval.andThen next.eval
  | _, .byKey key e => e.eval.byKey key
  | _, .typed view e => Comparator.typed view e.eval
  | _, .array e => Comparator.array e.eval
  | _, .lengthFirst e => Comparator.lengthFirst e.eval
  | _, .objectArray e => Comparator.objectArray e.eval
  | _, .list e => Comparator.list e.eval
  | _, .iterable elements e => Comparator.iterable elements e.eval
  | _, @ranking _ _ _ describe pairs ranks => Comparator.ranking describe pairs ranks.eval
  | _, .entry key value => Comparator.entry key.eval value.eval

/-- All comparators at the leaves are lawful. -/
def LeavesLawful : {α : Type} → Expr α → Prop
  | _, .leaf c => c.Lawful
  | _, .shared e => e.LeavesLawful
  | _, .boxed e => e.LeavesLawful
  | _, .nullSafe e _ => e.LeavesLawful
  | _, .reversed e => e.LeavesLawful
  | _, .andThen e next => e.LeavesLawful ∧ next.LeavesLawful
  | _, .byKey _ e => e.LeavesLawful
  | _, .typed _ e => e.LeavesLawful
  | _, .array e => e.LeavesLawful
  | _, .lengthFirst e => e.LeavesLawful
  | _, .objectArray e => e.LeavesLawful
  | _, .list e => e.LeavesLawful
  | _, .iterable _ e => e.LeavesLawful
  | _, @ranking _ _ _ _ _ ranks => ranks.LeavesLawful
  | _, .entry key value => key.LeavesLawful ∧ value.LeavesLawful

/-- Combinations of lawful comparators are lawful, at every depth. -/
theorem lawful_eval {α : Type} (e : Expr α) (h : e.LeavesLawful) : e.eval.Lawful := by
  induction e with
  | leaf c => exact h
  | shared e ih => exact ih h
  | boxed e ih => exact ih h
  | nullSafe e nullsLast ih => exact (ih h).nullSafe nullsLast
  | reversed e ih => exact (ih h).reversed
  | andThen e next ih ihn => exact (ih h.1).andThen (ihn h.2)
  | byKey key e ih => exact (ih h).byKey key
  | typed view e ih => exact (ih h).typed view
  | array e ih => exact (ih h).array
  | lengthFirst e ih => exact (ih h).lengthFirst
  | objectArray e ih => exact (ih h).objectArray
  | list e ih => exact (ih h).list
  | iterable elements e ih => exact (ih h).iterable elements
  | ranking describe pairs ranks ih => exact lawful_ranking (ih h) describe pairs
  | entry key value ihk ihv => exact (ihk h.1).entry (ihv h.2)

end Expr

/-! ### The laws of combinations -/

/-- **Combinations keep the laws of an order.** A comparator of any depth is lawful when those at
its leaves are, whichever of them fail on which operands; and the order of a type, that of the words
of floating point numbers and that of values are lawful leaves. -/
theorem combinations_lawful :
    (∀ {α : Type} (e : Expr α), e.LeavesLawful → e.eval.Lawful) ∧
    (∀ {α : Type} [Ord α] [Std.TransOrd α] (label : String),
      (natural label : Comparator α).Lawful) ∧
    (∀ label : String, (natural label : Comparator Single).Lawful) ∧
    (∀ label : String, (natural label : Comparator Double).Lawful) ∧
    valueOrder.Lawful :=
  ⟨fun e h => e.lawful_eval h, lawful_natural, lawful_natural, lawful_natural, lawful_valueOrder⟩

/-- Entries of a long and a list of values, by the long and then by the list in falling order, with
absent lists last. -/
theorem combinations_lawful_entries :
    (Expr.entry (.leaf (natural "i64" : Comparator Int64))
        (.nullSafe (.reversed (.list (.shared (.leaf valueOrder)))) true)).LeavesLawful ∧
      (Expr.entry (.leaf (natural "i64" : Comparator Int64))
        (.nullSafe (.reversed (.list (.shared (.leaf valueOrder)))) true)).eval.Lawful := by
  have h : (Expr.entry (.leaf (natural "i64" : Comparator Int64))
      (.nullSafe (.reversed (.list (.shared (.leaf valueOrder)))) true)).LeavesLawful :=
    ⟨combinations_lawful.2.1 "i64", combinations_lawful.2.2.2.2⟩
  exact ⟨h, combinations_lawful.1 _ h⟩

end RecordDiff.Comparator
