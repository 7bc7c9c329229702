import RecordDiff.Compare.Library
import Mathlib.Data.List.Forall2

/-!
# Lawful comparators

A comparator may fail, so the laws of an order are stated of the outcomes that it gives. An outcome
is reversed when the operands are exchanged, and two outcomes of which neither is greater compose to
a third: the outer pair does not fail, and it is less when one of the two was less.

Composition is the delicate law, since comparability alone is not transitive: a list may be decided
against each of two others at its first element and fail against the third. What makes it go through
is that an outcome that is not greater fixes where the comparison was decided.

## Implementation notes

The laws are first stated of two or three outcomes, whatever operands they come from. `thenWith` is
what every compound comparator is made of, and `Opposes.thenWith` and `Composes.thenWith_of_ties`
are the only places where its cases are gone through. Lemmas on sequences and on absent operands ask
for the laws of the elements that occur, so that they serve both for lawful comparators and inside
an induction over values.

## Main definitions

* `Comparison.Opposes`, `Comparison.Composes` - the two laws, of outcomes
* `Comparator.Lawful` - a comparator that keeps them on all operands
* `Comparator.Antisymmetric` - a comparator that keeps the first of them

## Main results

* `Comparison.Opposes.thenWith`, `Comparison.Composes.thenWith` - ties are broken lawfully
* `lexicographic_opposes`, `lexicographic_composes` - sequences are ordered lawfully
* `Comparator.Lawful.nullSafe` and the like - one lemma for each way to build a comparator
-/

namespace RecordDiff

namespace Comparison

/-! ### The laws of outcomes -/

/-- Where the first operands gave an outcome, the exchanged ones give the opposite. -/
def Opposes (r r' : Comparison) : Prop := ∀ o, r = .ok o → r' = .ok o.swap

/-- Where neither `r₁` nor `r₂` fails or is greater, `r` does not fail: it is less when one of the
two is, and equal otherwise. -/
def Composes (r₁ r₂ r : Comparison) : Prop :=
  ∀ o₁ o₂, r₁ = .ok o₁ → r₂ = .ok o₂ → o₁ ≠ .gt → o₂ ≠ .gt →
    r = .ok (if o₁ = .lt ∨ o₂ = .lt then .lt else .eq)

variable {r r' r₁ r₂ r₁' r₂' s s' s₁ s₂ : Comparison} {o o₁ o₂ : Ordering}

theorem thenWith_eq_ok_iff :
    (r.thenWith fun _ => s) = .ok o ↔ (r = .ok .eq ∧ s = .ok o) ∨ (r = .ok o ∧ o ≠ .eq) := by
  rcases r with e | (_ | _ | _) <;> cases o <;> simp

theorem thenWith_eq_ok_eq_iff :
    (r.thenWith fun _ => s) = .ok .eq ↔ r = .ok .eq ∧ s = .ok .eq := by
  simp [thenWith_eq_ok_iff]

theorem reverse_eq_ok_iff : r.reverse = .ok o ↔ r = .ok o.swap := by
  rcases r with e | (_ | _ | _) <;> cases o <;> simp

/-! ### Opposite outcomes -/

theorem opposes_error (e : CompareError) (r' : Comparison) : Opposes (.error e) r' :=
  fun _ h => nomatch h

theorem opposes_ok (o : Ordering) : Opposes (.ok o) (.ok o.swap) := by
  rintro _ ⟨⟩
  rfl

theorem opposes_compare {α : Type*} [Ord α] [Std.OrientedOrd α] (a b : α) :
    Opposes (.ok (compare a b)) (.ok (compare b a)) := by
  rw [Std.OrientedOrd.eq_swap (a := b)]
  exact opposes_ok _

/-- An outcome that is opposite to itself is equality. -/
theorem Opposes.eq_of_self (h : Opposes r r) (hr : r = .ok o) : o = .eq := by
  have hs : o = o.swap := Except.ok.inj (hr.symm.trans (h o hr))
  cases o with
  | eq => rfl
  | lt => cases hs
  | gt => cases hs

theorem Opposes.reverse (h : Opposes r r') : Opposes r.reverse r'.reverse := by
  intro o ho
  rw [reverse_eq_ok_iff] at ho ⊢
  exact h _ ho

theorem Opposes.thenWith (h : Opposes r r') (hs : Opposes s s') :
    Opposes (r.thenWith fun _ => s) (r'.thenWith fun _ => s') := by
  intro o ho
  rcases thenWith_eq_ok_iff.mp ho with ⟨hr, ho⟩ | ⟨hr, ho⟩
  · exact thenWith_eq_ok_iff.mpr (Or.inl ⟨h _ hr, hs _ ho⟩)
  · refine thenWith_eq_ok_iff.mpr (Or.inr ⟨h _ hr, ?_⟩)
    cases o <;> simp_all

/-! ### Composed outcomes -/

theorem composes_error_left (e : CompareError) (r₂ r : Comparison) : Composes (.error e) r₂ r :=
  fun _ _ h _ => nomatch h

theorem composes_error_right (e : CompareError) (r₁ r : Comparison) : Composes r₁ (.error e) r :=
  fun _ _ _ h => nomatch h

theorem composes_gt_left (r₂ r : Comparison) : Composes (.ok .gt) r₂ r :=
  fun _ _ h₁ _ n₁ _ => absurd (Except.ok.inj h₁).symm n₁

theorem composes_gt_right (r₁ r : Comparison) : Composes r₁ (.ok .gt) r :=
  fun _ _ _ h₂ _ n₂ => absurd (Except.ok.inj h₂).symm n₂

theorem composes_lt_left (r₂ : Comparison) : Composes (.ok .lt) r₂ (.ok .lt) := by
  rintro _ _ ⟨⟩ _ _ _
  rfl

theorem composes_lt_right (r₁ : Comparison) : Composes r₁ (.ok .lt) (.ok .lt) := by
  rintro _ _ _ ⟨⟩ _ _
  simp

theorem composes_eq_left (r : Comparison) : Composes (.ok .eq) r r := by
  rintro _ o ⟨⟩ h _ n
  cases o <;> simp_all

theorem composes_eq_right (r : Comparison) : Composes r (.ok .eq) r := by
  rintro o _ h ⟨⟩ n _
  cases o <;> simp_all

theorem composes_compare {α : Type*} [Ord α] [Std.TransOrd α] (a b d : α) :
    Composes (.ok (compare a b)) (.ok (compare b d)) (.ok (compare a d)) := by
  rintro o₁ o₂ h₁ h₂ n₁ n₂
  obtain rfl := Except.ok.inj h₁
  obtain rfl := Except.ok.inj h₂
  have hab : (compare a b).isLE := Ordering.isLE_iff_ne_gt.mpr n₁
  have hbd : (compare b d).isLE := Ordering.isLE_iff_ne_gt.mpr n₂
  congr 1
  split
  · rename_i hlt
    rcases hlt with hlt | hlt
    · exact Std.TransCmp.lt_of_lt_of_isLE hlt hbd
    · exact Std.TransCmp.lt_of_isLE_of_lt hab hlt
  · rename_i hlt
    obtain ⟨hne₁, hne₂⟩ := not_or.mp hlt
    have hab : compare a b = .eq := by cases h : compare a b <;> simp_all
    have hbd : compare b d = .eq := by cases h : compare b d <;> simp_all
    exact Std.TransCmp.eq_trans hab hbd

/-- Ties are broken lawfully. Where both pairs tie the tie-breakers compose; where one is decided it
is decided as less, and so is the outer pair. The tie-breakers are not looked at unless both pairs
tie. -/
theorem Composes.thenWith_of_ties (h : Composes r₁ r₂ r)
    (hs : r₁ = .ok .eq → r₂ = .ok .eq → Composes s₁ s₂ s) :
    Composes (r₁.thenWith fun _ => s₁) (r₂.thenWith fun _ => s₂) (r.thenWith fun _ => s) := by
  intro o₁ o₂ h₁ h₂ n₁ n₂
  rcases thenWith_eq_ok_iff.mp h₁ with ⟨hr₁, hs₁⟩ | ⟨hr₁, ne₁⟩ <;>
    rcases thenWith_eq_ok_iff.mp h₂ with ⟨hr₂, hs₂⟩ | ⟨hr₂, ne₂⟩
  · have hr : r = .ok .eq := by simpa using h _ _ hr₁ hr₂
    rw [hr, thenWith_eq]
    exact hs hr₁ hr₂ _ _ hs₁ hs₂ n₁ n₂
  · obtain rfl : o₂ = .lt := by cases o₂ <;> simp_all
    have hr : r = .ok .lt := by simpa using h _ _ hr₁ hr₂
    simp [hr]
  · obtain rfl : o₁ = .lt := by cases o₁ <;> simp_all
    have hr : r = .ok .lt := by simpa using h _ _ hr₁ hr₂
    simp [hr]
  · obtain rfl : o₁ = .lt := by cases o₁ <;> simp_all
    have hr : r = .ok .lt := by simpa [n₂] using h _ _ hr₁ hr₂
    simp [hr]

theorem Composes.thenWith (h : Composes r₁ r₂ r) (hs : Composes s₁ s₂ s) :
    Composes (r₁.thenWith fun _ => s₁) (r₂.thenWith fun _ => s₂) (r.thenWith fun _ => s) :=
  h.thenWith_of_ties fun _ _ => hs

/-- Reading three operands backwards, outcomes that are not greater are those that were not less. -/
theorem Composes.reverse (h : Composes r₂' r₁' r') (h₁ : Opposes r₁ r₁') (h₂ : Opposes r₂ r₂')
    (hr : Opposes r' r) : Composes r₁.reverse r₂.reverse r.reverse := by
  intro o₁ o₂ e₁ e₂ n₁ n₂
  have e₁ : r₁' = .ok o₁ := by simpa using h₁ _ (reverse_eq_ok_iff.mp e₁)
  have e₂ : r₂' = .ok o₂ := by simpa using h₂ _ (reverse_eq_ok_iff.mp e₂)
  rw [reverse_eq_ok_iff, hr _ (h _ _ e₂ e₁ n₂ n₁)]
  simp only [or_comm]

end Comparison

open Comparison

variable {α β κ ν ρ ι : Type*}

/-! ### Sequences -/

section Sequences

variable {element : Comparator α} {xs ys zs : List (Option α)}

/-- Sequences are compared lawfully in both directions when their elements are. -/
theorem lexicographic_opposes
    (h : ∀ a ∈ xs, ∀ b ∈ ys, (elementOrder element a b).Opposes (elementOrder element b a)) :
    (lexicographic element xs ys).Opposes (lexicographic element ys xs) := by
  induction xs generalizing ys with
  | nil =>
    cases ys with
    | nil => exact opposes_ok .eq
    | cons b bs => exact opposes_ok .lt
  | cons a as ih =>
    cases ys with
    | nil => exact opposes_ok .gt
    | cons b bs =>
      refine (h a List.mem_cons_self b List.mem_cons_self).thenWith (ih fun a' ha b' hb => ?_)
      exact h a' (List.mem_cons_of_mem _ ha) b' (List.mem_cons_of_mem _ hb)

/-- Outcomes on sequences compose when those on their elements do. A sequence that has ended before
another one is less, whatever the third one goes on with. -/
theorem lexicographic_composes
    (h : ∀ a ∈ xs, ∀ b ∈ ys, ∀ d ∈ zs, (elementOrder element a b).Composes
      (elementOrder element b d) (elementOrder element a d)) :
    (lexicographic element xs ys).Composes (lexicographic element ys zs)
      (lexicographic element xs zs) := by
  induction xs generalizing ys zs with
  | nil =>
    cases ys with
    | nil => exact composes_eq_left _
    | cons b bs =>
      cases zs with
      | nil => exact composes_gt_right _ _
      | cons d ds => exact composes_lt_left _
  | cons a as ih =>
    cases ys with
    | nil => exact composes_gt_left _ _
    | cons b bs =>
      cases zs with
      | nil => exact composes_gt_right _ _
      | cons d ds =>
        have hhead := h a List.mem_cons_self b List.mem_cons_self d List.mem_cons_self
        refine hhead.thenWith (ih fun a' ha b' hb d' hd => ?_)
        exact h a' (List.mem_cons_of_mem _ ha) b' (List.mem_cons_of_mem _ hb) d'
          (List.mem_cons_of_mem _ hd)

/-- Two sequences are equal when they have one length and are equal element by element. -/
theorem lexicographic_eq_iff :
    lexicographic element xs ys = .ok .eq ↔
      List.Forall₂ (fun a b => elementOrder element a b = .ok .eq) xs ys := by
  induction xs generalizing ys with
  | nil => cases ys <;> simp [lexicographic]
  | cons a as ih => cases ys <;> simp [lexicographic, thenWith_eq_ok_eq_iff, ih]

/-! #### Containers seen as sequences -/

variable {view : β → Option α} {us vs ws : List β}

theorem lexicographic_map_opposes
    (h : ∀ u ∈ us, ∀ v ∈ vs, (elementOrder element (view u) (view v)).Opposes
      (elementOrder element (view v) (view u))) :
    (lexicographic element (us.map view) (vs.map view)).Opposes
      (lexicographic element (vs.map view) (us.map view)) := by
  refine lexicographic_opposes (List.forall_mem_map.mpr fun u hu => ?_)
  exact List.forall_mem_map.mpr (h u hu)

theorem lexicographic_map_composes
    (h : ∀ u ∈ us, ∀ v ∈ vs, ∀ w ∈ ws, (elementOrder element (view u) (view v)).Composes
      (elementOrder element (view v) (view w)) (elementOrder element (view u) (view w))) :
    (lexicographic element (us.map view) (vs.map view)).Composes
      (lexicographic element (vs.map view) (ws.map view))
      (lexicographic element (us.map view) (ws.map view)) := by
  refine lexicographic_composes (List.forall_mem_map.mpr fun u hu => ?_)
  refine List.forall_mem_map.mpr fun v hv => ?_
  exact List.forall_mem_map.mpr (h u hu v hv)

theorem lexicographic_map_eq_iff :
    lexicographic element (us.map view) (vs.map view) = .ok .eq ↔
      List.Forall₂ (fun u v => elementOrder element (view u) (view v) = .ok .eq) us vs := by
  rw [lexicographic_eq_iff, List.forall₂_map_left_iff, List.forall₂_map_right_iff]

end Sequences

/-! ### Comparators -/

namespace Comparator

/-- The comparator keeps the laws of an order on all operands, absent ones included, wherever it
does not fail. -/
structure Lawful (c : Comparator α) : Prop where
  /-- Exchanged operands give the opposite outcome. -/
  opposes (a b : Option α) : (c.compare a b).Opposes (c.compare b a)
  /-- Outcomes that are not greater compose. -/
  composes (a b d : Option α) : (c.compare a b).Composes (c.compare b d) (c.compare a d)

/-- Exchanged operands give the opposite outcome, whether or not outcomes compose. -/
def Antisymmetric (c : Comparator α) : Prop :=
  ∀ a b : Option α, (c.compare a b).Opposes (c.compare b a)

variable {c : Comparator α}

theorem Lawful.antisymmetric (hc : c.Lawful) : c.Antisymmetric := hc.opposes

/-- One direction fails exactly when the other one does. -/
theorem Antisymmetric.fails_iff (hc : c.Antisymmetric) (a b : Option α) :
    (∃ e, c.compare a b = .error e) ↔ ∃ e, c.compare b a = .error e := by
  have key : ∀ a b, (∃ e, c.compare a b = .error e) → ∃ e, c.compare b a = .error e := by
    rintro a b ⟨e, he⟩
    cases h : c.compare b a with
    | error e' => exact ⟨e', rfl⟩
    | ok o => exact nomatch he.symm.trans (hc b a o h)
  exact ⟨key a b, key b a⟩

theorem Lawful.fails_iff (hc : c.Lawful) (a b : Option α) :
    (∃ e, c.compare a b = .error e) ↔ ∃ e, c.compare b a = .error e :=
  hc.antisymmetric.fails_iff a b

/-! #### Absent operands -/

theorem nullSafe_opposes {a b : Option α} (nullsLast : Bool)
    (h : ∀ x ∈ a, ∀ y ∈ b, (c.compare (some x) (some y)).Opposes (c.compare (some y) (some x))) :
    ((c.nullSafe nullsLast).compare a b).Opposes ((c.nullSafe nullsLast).compare b a) := by
  cases a with
  | none =>
    cases b with
    | none => exact opposes_ok .eq
    | some y => exact opposes_ok _
  | some x =>
    cases b with
    | none => cases nullsLast <;> exact opposes_ok _
    | some y => exact h x rfl y rfl

theorem nullSafe_composes {a b d : Option α} (nullsLast : Bool)
    (h : ∀ x ∈ a, ∀ y ∈ b, ∀ z ∈ d, (c.compare (some x) (some y)).Composes
      (c.compare (some y) (some z)) (c.compare (some x) (some z))) :
    ((c.nullSafe nullsLast).compare a b).Composes ((c.nullSafe nullsLast).compare b d)
      ((c.nullSafe nullsLast).compare a d) := by
  rcases a with _ | x <;> rcases b with _ | y <;> rcases d with _ | z
  case none.none.none => exact composes_eq_left _
  case none.none.some => exact composes_eq_left _
  case some.none.none => exact composes_eq_right _
  case some.some.some => exact h x rfl y rfl z rfl
  -- An absent operand at one end stays there, and one amid two present ones or the other way round
  -- is greater than a neighbour.
  all_goals cases nullsLast
  case none.some.none.false => exact composes_gt_right _ _
  case none.some.none.true => exact composes_gt_left _ _
  case none.some.some.false => exact composes_lt_left _
  case none.some.some.true => exact composes_gt_left _ _
  case some.none.some.false => exact composes_gt_left _ _
  case some.none.some.true => exact composes_gt_right _ _
  case some.some.none.false => exact composes_gt_right _ _
  case some.some.none.true => exact composes_lt_right _

theorem Lawful.nullSafe (hc : c.Lawful) (nullsLast : Bool) : (c.nullSafe nullsLast).Lawful where
  opposes _ _ := nullSafe_opposes nullsLast fun x _ y _ => hc.opposes (some x) (some y)
  composes _ _ _ :=
    nullSafe_composes nullsLast fun x _ y _ z _ => hc.composes (some x) (some y) (some z)

/-! #### Combinations -/

theorem Lawful.reversed (hc : c.Lawful) : c.reversed.Lawful where
  opposes a b := (hc.opposes a b).reverse
  composes a b d :=
    (hc.composes d b a).reverse (hc.opposes a b) (hc.opposes b d) (hc.opposes d a)

theorem Lawful.andThen {next : Comparator α} (hc : c.Lawful) (hn : next.Lawful) :
    (c.andThen next).Lawful where
  opposes a b := (hc.opposes a b).thenWith (hn.opposes a b)
  composes a b d := (hc.composes a b d).thenWith (hn.composes a b d)

theorem Lawful.byKey {c : Comparator κ} (hc : c.Lawful) (key : α → κ) : (c.byKey key).Lawful where
  opposes a b := hc.opposes (a.map key) (b.map key)
  composes a b d := hc.composes (a.map key) (b.map key) (d.map key)

/-- A view that fails on one of two operands makes their comparison fail, in both directions. -/
theorem Lawful.typed (hc : c.Lawful) (view : View α) : (typed view c).Lawful where
  opposes a b := by
    simp only [Comparator.typed]
    cases viewed view a with
    | error e => exact opposes_error e _
    | ok x =>
      cases viewed view b with
      | error e => exact opposes_error e _
      | ok y => exact hc.opposes x y
  composes a b d := by
    simp only [Comparator.typed]
    cases viewed view a with
    | error e => exact composes_error_left e _ _
    | ok x =>
      cases viewed view b with
      | error e => exact composes_error_left e _ _
      | ok y =>
        cases viewed view d with
        | error e => exact composes_error_right e _ _
        | ok z => exact hc.composes x y z

/-! #### Present operands only -/

/-- A comparator for present operands is lawful when the outcomes on them are: all others fail. -/
theorem lawful_ofPresent {order : α → α → Comparison} (label : String)
    (ho : ∀ a b, (order a b).Opposes (order b a))
    (hc : ∀ a b d, (order a b).Composes (order b d) (order a d)) :
    (ofPresent label order).Lawful where
  opposes a b := by
    rcases a with _ | x <;> rcases b with _ | y
    case some.some => exact ho x y
    all_goals exact opposes_error _ _
  composes a b d := by
    rcases a with _ | x <;> rcases b with _ | y
    case some.some =>
      cases d with
      | none => exact composes_error_right _ _ _
      | some z => exact hc x y z
    all_goals exact composes_error_left _ _ _

theorem lawful_natural [Ord α] [Std.TransOrd α] (label : String) :
    (natural label : Comparator α).Lawful :=
  lawful_ofPresent label opposes_compare composes_compare

theorem lawful_ranking [BEq κ] {ranks : Comparator ρ} (hr : ranks.Lawful) (describe : κ → String)
    (pairs : List (κ × ρ)) : (ranking describe pairs ranks).Lawful := by
  refine lawful_ofPresent "map key" (fun a b => ?_) fun a b d => ?_
  · cases rank? pairs a with
    | none => exact opposes_error _ _
    | some r =>
      cases rank? pairs b with
      | none => exact opposes_error _ _
      | some s => exact hr.opposes (some r) (some s)
  · cases rank? pairs a with
    | none => exact composes_error_left _ _ _
    | some r =>
      cases rank? pairs b with
      | none => exact composes_error_left _ _ _
      | some s =>
        cases rank? pairs d with
        | none => exact composes_error_right _ _ _
        | some t => exact hr.composes (some r) (some s) (some t)

theorem Lawful.entry {key : Comparator κ} {value : Comparator ν} (hk : key.Lawful)
    (hv : value.Lawful) : (entry key value).Lawful :=
  lawful_ofPresent "map entry"
    (fun a b => (hk.opposes (some a.1) (some b.1)).thenWith (hv.opposes (some a.2) (some b.2)))
    fun a b d => (hk.composes (some a.1) (some b.1) (some d.1)).thenWith
      (hv.composes (some a.2) (some b.2) (some d.2))

/-! #### Sequences -/

/-- Two absent elements are equal without being compared. Where the comparator has an outcome for
them it is the same one, as it is its own opposite. -/
theorem Lawful.elementOrder_opposes (hc : c.Lawful) (a b : Option α) :
    (elementOrder c a b).Opposes (elementOrder c b a) := by
  rcases a with _ | x <;> rcases b with _ | y
  case none.none => exact opposes_ok .eq
  all_goals exact hc.opposes _ _

theorem Lawful.elementOrder_composes (hc : c.Lawful) (a b d : Option α) :
    (elementOrder c a b).Composes (elementOrder c b d) (elementOrder c a d) := by
  rcases a with _ | x <;> rcases b with _ | y <;> rcases d with _ | z
  case none.none.none => exact composes_eq_left _
  case none.none.some => exact composes_eq_left _
  case some.none.none => exact composes_eq_right _
  case none.some.none =>
    intro o₁ o₂ h₁ h₂ n₁ n₂
    have h := hc.composes none (some y) none o₁ o₂ h₁ h₂ n₁ n₂
    rw [(hc.opposes none none).eq_of_self h]
    rfl
  all_goals exact hc.composes _ _ _

theorem Lawful.lexicographic_opposes (hc : c.Lawful) (xs ys : List (Option α)) :
    (lexicographic c xs ys).Opposes (lexicographic c ys xs) :=
  RecordDiff.lexicographic_opposes fun a _ b _ => hc.elementOrder_opposes a b

theorem Lawful.lexicographic_composes (hc : c.Lawful) (xs ys zs : List (Option α)) :
    (lexicographic c xs ys).Composes (lexicographic c ys zs) (lexicographic c xs zs) :=
  RecordDiff.lexicographic_composes fun a _ b _ d _ => hc.elementOrder_composes a b d

/-- Containers seen as sequences are ordered lawfully, whatever the view and whatever the label. -/
theorem Lawful.sequence (hc : c.Lawful) (label : String) (view : ι → List (Option α)) :
    (ofPresent label fun xs ys => lexicographic c (view xs) (view ys)).Lawful :=
  lawful_ofPresent label (fun _ _ => hc.lexicographic_opposes _ _)
    fun _ _ _ => hc.lexicographic_composes _ _ _

theorem Lawful.array (hc : c.Lawful) : (array c).Lawful := hc.sequence "array" (List.map some)

theorem Lawful.objectArray (hc : c.Lawful) : (objectArray c).Lawful := hc.sequence _ id

theorem Lawful.list {c : Comparator Value} (hc : c.Lawful) : (list c).Lawful :=
  hc.sequence "list" (List.map Value.present?)

theorem Lawful.iterable (hc : c.Lawful) (elements : ι → List α) : (iterable elements c).Lawful :=
  hc.sequence "iterable" fun xs => (elements xs).map some

theorem Lawful.lengthFirst (hc : c.Lawful) : (lengthFirst c).Lawful :=
  lawful_ofPresent "array"
    (fun xs ys => (opposes_compare xs.length ys.length).thenWith (hc.lexicographic_opposes _ _))
    fun xs ys zs => (composes_compare xs.length ys.length zs.length).thenWith
      (hc.lexicographic_composes _ _ _)

end Comparator

end RecordDiff
