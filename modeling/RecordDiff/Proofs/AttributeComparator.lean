import RecordDiff.Proofs.Configuration
import RecordDiff.Proofs.DefaultOrder
import RecordDiff.Proofs.ValueIdentity
import Mathlib.Data.List.Nodup

/-!
# The comparator of an attribute

A differ looks the comparator of an attribute up by name: first among those that were set, then
among the defaults, and what has neither is left to the fallback. For a differ that is up to date
these are two cases only. Its defaults and its fallback are default comparators of kinds, so that an
attribute without a comparator of its own is compared by the default of one kind, the declared one.

Resolvers need not have distinct names. Of two attributes of one name the last one counts.

## Main definitions

* `Kind.Refuses` - the values that the default comparator of a kind refuses
* `Differ.declaredKind` - the kind that counts for a name

## Main results

* `Differ.UpToDate.comparatorFor_eq` - the comparator of every name
* `Comparator.lawful_forKind` - default comparators are lawful
* `Comparator.forKind_eq_iff` - what a default comparator says about values that are identified
* `Differ.UpToDate.antisymmetric_comparatorFor` - and the comparators of attributes are
  antisymmetric, as far as those are that were set
-/

namespace RecordDiff

/-- The values that the default comparator of the kind refuses: those of another kind, null apart.
Some kinds take all values. -/
def Kind.Refuses (kind : Kind) (v : Value) : Prop :=
  v ≠ .null ∧ ¬ kind.TakesAll ∧ v.kind ≠ kind

namespace Comparator

open Value

/-! ### Default comparators are lawful -/

theorem lawful_fallback (nullsLast : Bool) : (fallback nullsLast).Lawful :=
  (lawful_valueOrder.nullSafe nullsLast).typed .any

/-- The default comparator of every kind is lawful. -/
theorem lawful_forKind (kind : Kind) (nullsLast : Bool) : (forKind kind nullsLast).Lawful := by
  cases kind
  case list => exact (lawful_valueOrder.list.nullSafe nullsLast).typed .list
  case map => exact lawful_fallback nullsLast
  case record typeName => exact lawful_fallback nullsLast
  case any => exact lawful_fallback nullsLast
  all_goals first
    | exact ((lawful_natural _).nullSafe nullsLast).typed _
    | exact ((lawful_natural _).array.nullSafe nullsLast).typed _

/-! ### Default comparators and refused values -/

/-- What is not null is not taken away a second time. -/
theorem present?_bind_present? (v : Value) : v.present?.bind present? = v.present? := by
  cases v <;> rfl

theorem mem_presentOperands_present? {u v w : Value}
    (h : w ∈ presentOperands u.present? v.present?) : w ≠ .null ∧ (w = u ∨ w = v) := by
  rw [presentOperands, present?_bind_present?, present?_bind_present?, List.mem_append,
    Option.mem_toList, Option.mem_toList, present?_eq_some_iff, present?_eq_some_iff] at h
  rcases h with ⟨rfl, hne⟩ | ⟨rfl, hne⟩
  · exact ⟨hne, Or.inl rfl⟩
  · exact ⟨hne, Or.inr rfl⟩

/-- The default comparator of a kind leaves to the fallback what it does not refuse. -/
theorem forKind_of_not_refuses {kind : Kind} {u v : Value} (hu : ¬ kind.Refuses u)
    (hv : ¬ kind.Refuses v) (nullsLast : Bool) :
    (forKind kind nullsLast).compare u.present? v.present? =
      (fallback nullsLast).compare u.present? v.present? := by
  by_cases h : kind.TakesAll
  · rw [forKind_of_takesAll h]
  · have hfind : (presentOperands u.present? v.present?).find? (fun w => w.kind ≠ kind) = none := by
      refine List.find?_eq_none.mpr fun w hw hkind => ?_
      obtain ⟨hne, rfl | rfl⟩ := mem_presentOperands_present? hw
      · exact hu ⟨hne, h, of_decide_eq_true hkind⟩
      · exact hv ⟨hne, h, of_decide_eq_true hkind⟩
    rw [forKind_compare h, hfind]

/-- It complains about the first operand if it refuses that one, whatever the other one is. -/
theorem forKind_of_refuses {kind : Kind} {v : Value} (h : kind.Refuses v) (nullsLast : Bool)
    (last : Option Value) :
    (forKind kind nullsLast).compare v.present? last =
      .error (.incomparable kind.name v.typeName) := by
  obtain ⟨hne, htakes, hkind⟩ := h
  have hpresent : v.present? = some v := present?_eq_some_iff.mpr ⟨rfl, hne⟩
  have hfind : (presentOperands v.present? last).find? (fun w => w.kind ≠ kind) = some v := by
    rw [presentOperands, present?_bind_present?, hpresent]
    exact List.find?_cons_of_pos (decide_eq_true hkind)
  rw [forKind_compare htakes, hfind]

/-! ### Default comparators and identity -/

/-- Whatever a default comparator does not refuse it leaves to the fallback. -/
theorem forKind_compare_or (kind : Kind) (nullsLast : Bool) (first last : Option Value) :
    (forKind kind nullsLast).compare first last = (fallback nullsLast).compare first last ∨
      ∃ e, (forKind kind nullsLast).compare first last = .error e := by
  by_cases h : kind.TakesAll
  · exact Or.inl (by rw [forKind_of_takesAll h])
  · rw [forKind_compare h]
    split
    · exact Or.inl rfl
    · exact Or.inr ⟨_, rfl⟩

/-- The fallback sees that two values are identified, null or not. -/
theorem fallback_eq_iff {nullsLast : Bool} {v w : Value} :
    (fallback nullsLast).compare v.present? w.present? = .ok .eq ↔ v.Identified w := by
  rw [fallback_compare, present?_bind_present?, present?_bind_present?, nullSafe_present?_eq_iff]
  exact ⟨identified_of_valueOrder_eq, valueOrder_eq_of_identified⟩

/-- An answer of a default comparator tells whether two values are identified. -/
theorem forKind_eq_iff {kind : Kind} {nullsLast : Bool} {v w : Value} {o : Ordering}
    (h : (forKind kind nullsLast).compare v.present? w.present? = .ok o) :
    o = .eq ↔ v.Identified w := by
  rcases forKind_compare_or kind nullsLast v.present? w.present? with hsame | ⟨e, he⟩
  · rw [← fallback_eq_iff, ← hsame, h, Except.ok.injEq]
  · exact nomatch h.symm.trans he

end Comparator

namespace Differ

variable {ι : Type} {d : Differ ι}

/-! ### The declared kind -/

/-- The kind that is declared for a name, by the last attribute that has it. A name that no
attribute has may hold values of every kind. -/
def declaredKind (d : Differ ι) (name : String) : Kind :=
  ((d.resolved.reverse.find? fun a => a.name = name).map (·.kind)).getD .any

/-- Of attributes with distinct names each declares the kind that counts. -/
theorem declaredKind_of_nodup (hnames : d.resolvedNames.Nodup) {a : AttributeInfo}
    (ha : a ∈ d.resolved) : d.declaredKind a.name = a.kind := by
  have hfind : (d.resolved.reverse.find? fun b => b.name = a.name) = some a := by
    cases hfound : d.resolved.reverse.find? fun b => b.name = a.name with
    | none =>
      have hnone := List.find?_eq_none.mp hfound a (List.mem_reverse.mpr ha)
      exact absurd (decide_eq_true rfl) hnone
    | some b =>
      have hname : b.name = a.name := by simpa using List.find?_some hfound
      have hb : b ∈ d.resolved := List.mem_reverse.mp (List.mem_of_find?_eq_some hfound)
      rw [List.inj_on_of_nodup_map hnames hb ha hname]
  rw [declaredKind, hfind]
  rfl

/-- The comparator of a name is the one that was set, or the default of the declared kind. -/
theorem UpToDate.comparatorFor_eq (h : d.UpToDate) (name : String) :
    d.comparatorFor name =
      (Members.get? name d.overrides).getD (.forKind (d.declaredKind name) d.nullsLast) := by
  have hdefault : (Members.get? name d.defaults).getD d.fallback =
      .forKind (d.declaredKind name) d.nullsLast := by
    rw [h.defaults_eq, h.fallback_eq, defaultsFor, Members.get?_ofList, ← List.map_reverse,
      List.find?_map, declaredKind]
    change ((d.resolved.reverse.find? fun a => a.name = name).map _ |>.map _).getD _ = _
    cases d.resolved.reverse.find? fun a => a.name = name <;> rfl
  rw [comparatorFor, hdefault]
  cases Members.get? name d.overrides <;> rfl

/-- A differ for which no comparator was set compares every attribute by its declared kind. -/
theorem UpToDate.comparatorFor_of_overrides_eq_nil (h : d.UpToDate) (hd : d.overrides = [])
    (name : String) : d.comparatorFor name = .forKind (d.declaredKind name) d.nullsLast := by
  rw [h.comparatorFor_eq, hd]
  rfl

/-! ### Laws of the comparators of attributes -/

/-- Where the comparators that were set are antisymmetric, all are. -/
theorem UpToDate.antisymmetric_comparatorFor (h : d.UpToDate)
    (hset : ∀ m ∈ d.overrides, m.2.Antisymmetric) (name : String) :
    (d.comparatorFor name).Antisymmetric := by
  rw [h.comparatorFor_eq]
  cases hget : Members.get? name d.overrides with
  | none => exact (Comparator.lawful_forKind _ _).antisymmetric
  | some c => exact hset (name, c) (Members.mem_of_get? hget)

end Differ

end RecordDiff
