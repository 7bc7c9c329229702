import RecordDiff.Proofs.ScalarOrder

/-!
# Default comparators and the fallback

Every kind of value has a default comparator, and there is one for values of every kind, the
fallback. Most kinds have an order of their own, which sees values through a view. It was written
apart from the order of values, and the two have to agree: what a kind's own comparator answers the
fallback answers too, and it refuses exactly the operands that the view does not see.

## Main definitions

* `Comparator.presentOperands` - the operands that are there, the first one first
* `Kind.TakesAll` - the kinds without a comparator of their own
* `View.Sees` - a view sees the values of one kind and no others

## Main results

* `View.Sees.typed_nullSafe` - the comparator of a kind, in terms of the fallback
* `Comparator.forKind_own` - every other kind has a view of its own and agrees with the order of
  values
* `Comparator.forKind_agrees_fallback` - default comparators and the fallback agree
-/

namespace RecordDiff

/-! ### Views of one kind -/

/-- The view sees the values of a kind, which are those that `make` makes, and no others. -/
structure View.Sees {α : Type} (view : View α) (kind : Kind) (make : α → Value) : Prop where
  /-- Errors name the kind. -/
  kindName_eq : view.kindName = kind.name
  /-- Nulls have no kind of their own. -/
  kind_ne_any : kind ≠ .any
  kind_make (a : α) : (make a).kind = kind
  get?_make (a : α) : view.get? (make a) = some a
  /-- There are no further values of the kind, and those of other kinds are not seen. -/
  make_or_other (v : Value) : (∃ a, v = make a) ∨ (v.kind ≠ kind ∧ view.get? v = none)

/-- The kinds whose default comparator takes values of every kind. -/
def Kind.TakesAll : Kind → Prop
  | .map | .record _ | .any => True
  | _ => False

namespace Comparator

open Value

/-- The operands that are neither absent nor null, the first one first. -/
def presentOperands (first last : Option Value) : List Value :=
  (first.bind present?).toList ++ (last.bind present?).toList

/-- The fallback sees every operand as it is. -/
theorem fallback_compare (nullsLast : Bool) (first last : Option Value) :
    (fallback nullsLast).compare first last =
      (valueOrder.nullSafe nullsLast).compare (first.bind present?) (last.bind present?) := by
  have hviewed : ∀ a, viewed .any a = .ok (a.bind present?) := by
    intro a
    unfold viewed
    cases a.bind present? <;> rfl
  simp only [fallback, typed, hviewed]

/-! ### Through a view -/

section View

variable {α : Type} {view : View α} {kind : Kind} {make : α → Value}

/-- An operand is the content of a value of the kind, or nothing, or it is refused. -/
theorem viewed_cases (hs : view.Sees kind make) (a : Option Value) :
    (∃ x : Option α, a.bind present? = x.map make ∧ viewed view a = .ok x) ∨
      ∃ v, a.bind present? = some v ∧ v.kind ≠ kind ∧
        viewed view a = .error (.incomparable kind.name v.typeName) := by
  unfold viewed
  cases a.bind present? with
  | none => exact Or.inl ⟨none, rfl, rfl⟩
  | some v =>
    rcases hs.make_or_other v with ⟨x, rfl⟩ | ⟨hkind, hget⟩
    · exact Or.inl ⟨some x, rfl, by simp only [hs.get?_make]⟩
    · exact Or.inr ⟨v, rfl, hkind, by simp only [hget, hs.kindName_eq]⟩

/-- A value that is there has no null in its place. -/
theorem valueOrder_make (hs : view.Sees kind make) (x y : α) :
    valueOrder.compare (some (make x)) (some (make y)) = naturalOrder (make x) (make y) := by
  have hpresent : ∀ a, (make a).present? = some (make a) := by
    intro a
    refine present?_eq_some_iff.mpr ⟨rfl, fun hnull => hs.kind_ne_any ?_⟩
    rw [← hs.kind_make a, hnull]
    rfl
  simp [valueOrder, hpresent]

/-- A comparator seen through the view of a kind answers as the fallback does, unless an operand is
of another kind: the first one of these is refused. -/
theorem typed_nullSafe (hs : view.Sees kind make) {c : Comparator α}
    (hc : ∀ x y, c.compare (some x) (some y) = naturalOrder (make x) (make y)) (nullsLast : Bool)
    (first last : Option Value) :
    (typed view (c.nullSafe nullsLast)).compare first last =
      match (presentOperands first last).find? (fun v => v.kind ≠ kind) with
      | none => (fallback nullsLast).compare first last
      | some v => .error (.incomparable kind.name v.typeName) := by
  rcases viewed_cases hs first with ⟨x, hx, hvx⟩ | ⟨v, hv, hkind, herror⟩
  · rcases viewed_cases hs last with ⟨y, hy, hvy⟩ | ⟨w, hw, hkind, herror⟩
    · have hfind : (presentOperands first last).find? (fun v => v.kind ≠ kind) = none := by
        rw [presentOperands, hx, hy]
        cases x <;> cases y <;> simp [hs.kind_make]
      rw [hfind, fallback_compare, hx, hy]
      simp only [typed, hvx, hvy]
      cases x with
      | none => cases y <;> rfl
      | some x =>
        cases y with
        | none => rfl
        | some y => exact (hc x y).trans (valueOrder_make hs x y).symm
    · have hfind : (presentOperands first last).find? (fun v => v.kind ≠ kind) = some w := by
        rw [presentOperands, hx, hw]
        cases x <;> simp [hs.kind_make, hkind]
      rw [hfind]
      simp only [typed, hvx, herror]
  · have hfind : (presentOperands first last).find? (fun v => v.kind ≠ kind) = some v := by
      simp [presentOperands, hv, hkind]
    rw [hfind]
    simp only [typed, herror]

end View

/-! ### The kinds -/

/-- Every kind that does not take all values has a view of its own, and what it sees is compared as
the order of values compares it. -/
theorem forKind_own (kind : Kind) (nullsLast : Bool) (h : ¬ kind.TakesAll) :
    ∃ (α : Type) (view : View α) (make : α → Value) (c : Comparator α), view.Sees kind make ∧
      (∀ x y, c.compare (some x) (some y) = naturalOrder (make x) (make y)) ∧
      forKind kind nullsLast = typed view (c.nullSafe nullsLast) := by
  cases kind
  case map => exact absurd trivial h
  case record => exact absurd trivial h
  case any => exact absurd trivial h
  case' bool => refine ⟨_, .bool, .bool, natural _, ?_, fun _ _ => rfl, rfl⟩
  case' byte => refine ⟨_, .byte, .byte, natural _, ?_, fun _ _ => rfl, rfl⟩
  case' short => refine ⟨_, .short, .short, natural _, ?_, fun _ _ => rfl, rfl⟩
  case' char => refine ⟨_, .char, .char, natural _, ?_, fun _ _ => rfl, rfl⟩
  case' int => refine ⟨_, .int, .int, natural _, ?_, fun _ _ => rfl, rfl⟩
  case' long => refine ⟨_, .long, .long, natural _, ?_, fun _ _ => rfl, rfl⟩
  case' float => refine ⟨_, .float, .float, natural _, ?_, fun _ _ => rfl, rfl⟩
  case' double => refine ⟨_, .double, .double, natural _, ?_, fun _ _ => rfl, rfl⟩
  case' string => refine ⟨_, .string, .string, natural _, ?_, fun _ _ => rfl, rfl⟩
  case' decimal => refine ⟨_, .decimal, .decimal, natural _, ?_, fun _ _ => rfl, rfl⟩
  case' locale => refine ⟨_, .locale, .locale, natural _, ?_, fun _ _ => rfl, rfl⟩
  case' timestamp => refine ⟨_, .timestamp, .timestamp, natural _, ?_, fun _ _ => rfl, rfl⟩
  case' boolArray =>
    refine ⟨_, .boolArray, .boolArray, array (natural _), ?_, lexicographic_natural _, rfl⟩
  case' byteArray =>
    refine ⟨_, .byteArray, .byteArray, array (natural _), ?_, lexicographic_natural _, rfl⟩
  case' shortArray =>
    refine ⟨_, .shortArray, .shortArray, array (natural _), ?_, lexicographic_natural _, rfl⟩
  case' charArray =>
    refine ⟨_, .charArray, .charArray, array (natural _), ?_, lexicographic_natural _, rfl⟩
  case' intArray =>
    refine ⟨_, .intArray, .intArray, array (natural _), ?_, lexicographic_natural _, rfl⟩
  case' longArray =>
    refine ⟨_, .longArray, .longArray, array (natural _), ?_, lexicographic_natural _, rfl⟩
  case' floatArray =>
    refine ⟨_, .floatArray, .floatArray, array (natural _), ?_, fun _ _ => rfl, rfl⟩
  case' doubleArray =>
    refine ⟨_, .doubleArray, .doubleArray, array (natural _), ?_, fun _ _ => rfl, rfl⟩
  case' list =>
    refine ⟨_, .list, .list, list valueOrder, ?_, fun xs ys => (naturalOrder_list xs ys).symm, rfl⟩
  -- What is left of each kind: its view sees the values of the kind and no others.
  all_goals
    refine ⟨rfl, nofun, fun _ => rfl, fun _ => rfl, fun v => ?_⟩
    cases v <;> first | exact Or.inl ⟨_, rfl⟩ | exact Or.inr ⟨nofun, rfl⟩

/-- The kinds that take all values are compared by the fallback. -/
theorem forKind_of_takesAll {kind : Kind} (h : kind.TakesAll) (nullsLast : Bool) :
    forKind kind nullsLast = fallback nullsLast := by
  cases kind <;> first | rfl | exact absurd h id

/-- The other kinds are compared by the fallback too, unless an operand is of another kind: the
first one of these is refused. -/
theorem forKind_compare {kind : Kind} (h : ¬ kind.TakesAll) (nullsLast : Bool)
    (first last : Option Value) :
    (forKind kind nullsLast).compare first last =
      match (presentOperands first last).find? (fun v => v.kind ≠ kind) with
      | none => (fallback nullsLast).compare first last
      | some v => .error (.incomparable kind.name v.typeName) := by
  obtain ⟨α, view, make, c, hs, hc, hforKind⟩ := forKind_own kind nullsLast h
  rw [hforKind]
  exact typed_nullSafe hs hc nullsLast first last

/-- A view does not see whether an operand is null or absent. -/
theorem typed_null {α : Type} (view : View α) (c : Comparator α) (other : Option Value) :
    (typed view c).compare (some .null) other = (typed view c).compare none other ∧
      (typed view c).compare other (some .null) = (typed view c).compare other none :=
  ⟨rfl, rfl⟩

theorem forKind_null (kind : Kind) (nullsLast : Bool) (other : Option Value) :
    (forKind kind nullsLast).compare (some .null) other =
        (forKind kind nullsLast).compare none other ∧
      (forKind kind nullsLast).compare other (some .null) =
        (forKind kind nullsLast).compare other none := by
  cases kind <;> exact typed_null _ _ other

/-- **Default comparators agree with the fallback.** What the comparator of a kind answers the
fallback answers too. They are the same where all operands that are there have the kind, and for
the kinds that take all values; otherwise the first operand of another kind is refused. Neither
tells null from an absent operand. -/
theorem forKind_agrees_fallback (kind : Kind) (nullsLast : Bool) (first last : Option Value) :
    (∀ o, (forKind kind nullsLast).compare first last = .ok o →
      (fallback nullsLast).compare first last = .ok o) ∧
    (kind.TakesAll ∨ (∀ v ∈ presentOperands first last, v.kind = kind) →
      (forKind kind nullsLast).compare first last = (fallback nullsLast).compare first last) ∧
    (¬ kind.TakesAll → (∃ v ∈ presentOperands first last, v.kind ≠ kind) →
      ∃ v, (presentOperands first last).find? (fun v => v.kind ≠ kind) = some v ∧
        (forKind kind nullsLast).compare first last =
          .error (.incomparable kind.name v.typeName)) ∧
    ∀ c ∈ [forKind kind nullsLast, fallback nullsLast], ∀ other : Option Value,
      c.compare (some .null) other = c.compare none other ∧
        c.compare other (some .null) = c.compare other none := by
  refine ⟨?answers, ?same, ?refuses, ?nulls⟩
  case answers =>
    intro o hanswer
    by_cases h : kind.TakesAll
    · rwa [forKind_of_takesAll h] at hanswer
    · rw [forKind_compare h] at hanswer
      split at hanswer
      · exact hanswer
      · cases hanswer
  case same =>
    intro hsame
    by_cases h : kind.TakesAll
    · rw [forKind_of_takesAll h]
    · have hkinds := hsame.resolve_left h
      have hfind : (presentOperands first last).find? (fun v => v.kind ≠ kind) = none :=
        List.find?_eq_none.mpr fun v hv => by simp [hkinds v hv]
      rw [forKind_compare h, hfind]
  case refuses =>
    rintro h ⟨v, hv, hkind⟩
    have hsome : ((presentOperands first last).find? (fun v => v.kind ≠ kind)).isSome :=
      List.find?_isSome.mpr ⟨v, hv, decide_eq_true hkind⟩
    obtain ⟨w, hfind⟩ := Option.isSome_iff_exists.mp hsome
    exact ⟨w, hfind, by rw [forKind_compare h, hfind]⟩
  case nulls =>
    intro c hc other
    rw [List.mem_cons, List.mem_singleton] at hc
    rcases hc with rfl | rfl
    · exact forKind_null kind nullsLast other
    · exact typed_null _ _ other

/-- Two ints are compared as the fallback compares them; a string beside an int is refused. -/
theorem forKind_agrees_fallback_ints :
    (fallback true).compare (some (.int 1)) (some (.int 2)) = .ok .lt ∧
      (forKind .int true).compare (some (.int 1)) (some (.int 2)) =
        (fallback true).compare (some (.int 1)) (some (.int 2)) ∧
      ∃ v, (presentOperands (some (.int 1)) (some (.string "1"))).find?
          (fun v => v.kind ≠ Kind.int) = some v ∧
        (forKind .int true).compare (some (.int 1)) (some (.string "1")) =
          .error (.incomparable Kind.int.name v.typeName) :=
  ⟨(forKind_agrees_fallback .int true _ _).1 .lt (by decide +kernel),
    (forKind_agrees_fallback .int true _ _).2.1 (Or.inr (by decide +kernel)),
    (forKind_agrees_fallback .int true _ _).2.2.1 id (by decide +kernel)⟩

end Comparator

end RecordDiff
