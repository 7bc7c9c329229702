import RecordDiff.Proofs.AttributeLocal
import RecordDiff.Proofs.AttributeComparator

/-!
# The place of absent values

Whether absent values come first or last is a matter of order. It decides which of two instances is
the smaller one, and it must have no say in whether they differ: an audit is not to depend on it.
Still, every change of it replaces all default comparators and the fallback.

A difference asks two things of an outcome only, which error it is and whether it is equality. The
place of absent values decides neither. A default comparator looks at it where one operand is absent
and the other one is not, and there it chooses between the two orders that are not equality. Nulls
inside lists, maps and records have a place of their own, which nothing moves.

## Main definitions

* `Comparison.differs` - an outcome, without the order of operands that differ
* `Comparator.SameVerdicts` - two comparators that tell the same operands apart
* `Differ.EqualButPlace` - two differs that are the same up to the place of absent values
* `placeless` - the calls of a run that do not place absent values

## Main results

* `Comparator.sameVerdicts_forKind` - default comparators tell the same operands apart, wherever
  absent ones stand
* `Differ.equalButPlace_placeless` - what a run of calls does apart from placing absent values
* `Differ.diff_ignores_nullsLast` - the place of absent values does not change any difference
-/

namespace RecordDiff

/-! ### Verdicts -/

/-- Whether the operands differ, without regard to their order. -/
def Comparison.differs (r : Comparison) : Except CompareError Bool := r.map (· != .eq)

theorem Comparison.differs_eq_error_iff {r : Comparison} {e : CompareError} :
    r.differs = .error e ↔ r = .error e := by
  cases r <;> simp [differs, Except.map]

theorem Comparison.differs_eq_false_iff {r : Comparison} :
    r.differs = .ok false ↔ r = .ok .eq := by
  cases r <;> simp [differs, Except.map]

theorem Comparison.differs_eq_true_iff {r : Comparison} :
    r.differs = .ok true ↔ ∃ o, o ≠ .eq ∧ r = .ok o := by
  cases r <;> simp [differs, Except.map]

namespace Comparator

variable {α : Type}

/-- The comparators fail on the same operands with the same errors and call the same operands
equal. -/
def SameVerdicts (c c' : Comparator α) : Prop :=
  ∀ first last, (c.compare first last).differs = (c'.compare first last).differs

theorem SameVerdicts.refl (c : Comparator α) : c.SameVerdicts c := fun _ _ => rfl

/-- A single absent operand differs from what is there, wherever it stands. -/
theorem sameVerdicts_nullSafe (c : Comparator α) (nullsLast nullsLast' : Bool) :
    (c.nullSafe nullsLast).SameVerdicts (c.nullSafe nullsLast') := by
  intro first last
  have hsingle : ∀ place : Bool, absentOrder place ≠ .eq ∧ (absentOrder place).swap ≠ .eq := by
    decide
  rcases first with _ | a <;> rcases last with _ | b
  case none.none => rfl
  case some.some => rfl
  case none.some =>
    have hdiffers : ∀ place, ((c.nullSafe place).compare none (some b)).differs = .ok true :=
      fun place => Comparison.differs_eq_true_iff.mpr ⟨_, (hsingle place).1, rfl⟩
    rw [hdiffers, hdiffers]
  case some.none =>
    have hdiffers : ∀ place, ((c.nullSafe place).compare (some a) none).differs = .ok true :=
      fun place => Comparison.differs_eq_true_iff.mpr ⟨_, (hsingle place).2, rfl⟩
    rw [hdiffers, hdiffers]

theorem SameVerdicts.typed {c c' : Comparator α} (h : c.SameVerdicts c') (view : View α) :
    (typed view c).SameVerdicts (typed view c') := by
  intro first last
  simp only [Comparator.typed]
  cases viewed view first with
  | error e => rfl
  | ok a =>
    cases viewed view last with
    | error e => rfl
    | ok b => exact h a b

/-- The default comparators of a kind tell the same operands apart. -/
theorem sameVerdicts_forKind (kind : Kind) (nullsLast nullsLast' : Bool) :
    (forKind kind nullsLast).SameVerdicts (forKind kind nullsLast') := by
  cases kind <;> exact (sameVerdicts_nullSafe _ nullsLast nullsLast').typed _

end Comparator

namespace Differ

variable {ι : Type} {d d' : Differ ι} {pairs : List (String × Option (Value × Value))}

/-! ### Entries -/

/-- Comparators that tell the same values apart make the same entries. -/
theorem entriesOf_eq_of_sameVerdicts
    (h : ∀ name, (d.comparatorFor name).SameVerdicts (d'.comparatorFor name))
    (pairs : List (String × Option (Value × Value))) : d.entriesOf pairs = d'.entriesOf pairs := by
  have hvalues : ∀ name u v,
      (d.compareValues name u v).differs = (d'.compareValues name u v).differs :=
    fun name u v => h name u.present? v.present?
  induction pairs with
  | nil => rfl
  | cons p pairs ih =>
    rcases d.ties_or p with ht | ⟨name, u, v, rfl, ⟨o, ho, hc⟩ | ⟨cause, hc⟩⟩
    · have ht' : d'.Ties p := by
        intro u v huv
        rw [← Comparison.differs_eq_false_iff, ← hvalues, Comparison.differs_eq_false_iff]
        exact ht u v huv
      rw [entriesOf_of_ties ht, entriesOf_of_ties ht', ih]
    · have hdiffers := Comparison.differs_eq_true_iff.mpr ⟨o, ho, hc⟩
      rw [hvalues] at hdiffers
      obtain ⟨o', ho', hc'⟩ := Comparison.differs_eq_true_iff.mp hdiffers
      rw [entriesOf_of_differs ho hc, entriesOf_of_differs ho' hc', ih]
    · have hfails := Comparison.differs_eq_error_iff.mpr hc
      rw [hvalues] at hfails
      rw [entriesOf_of_error hc, entriesOf_of_error (Comparison.differs_eq_error_iff.mp hfails)]

/-! ### Differs up to the place of absent values -/

/-- The differs have the same state apart from the place of absent values and from the comparators
that follow from it. -/
structure EqualButPlace (d d' : Differ ι) : Prop where
  resolver_eq : d.resolver = d'.resolver
  resolved_eq : d.resolved = d'.resolved
  base_eq : d.base? = d'.base?
  filter_eq : d.filter = d'.filter
  active_eq : d.active = d'.active
  overrides_eq : d.overrides = d'.overrides

theorem EqualButPlace.refl (d : Differ ι) : d.EqualButPlace d := ⟨rfl, rfl, rfl, rfl, rfl, rfl⟩

/-- Placing absent values changes nothing else. -/
theorem setNullsLast_equalButPlace (d : Differ ι) (nullsLast : Bool) :
    (d.setNullsLast nullsLast).EqualButPlace d := by
  rw [setNullsLast]
  split
  · exact .refl d
  · exact ⟨rfl, rfl, rfl, rfl, rfl, rfl⟩

theorem EqualButPlace.trans {d'' : Differ ι} (h : d.EqualButPlace d') (h' : d'.EqualButPlace d'') :
    d.EqualButPlace d'' where
  resolver_eq := h.resolver_eq.trans h'.resolver_eq
  resolved_eq := h.resolved_eq.trans h'.resolved_eq
  base_eq := h.base_eq.trans h'.base_eq
  filter_eq := h.filter_eq.trans h'.filter_eq
  active_eq := h.active_eq.trans h'.active_eq
  overrides_eq := h.overrides_eq.trans h'.overrides_eq

theorem EqualButPlace.symm (h : d.EqualButPlace d') : d'.EqualButPlace d where
  resolver_eq := h.resolver_eq.symm
  resolved_eq := h.resolved_eq.symm
  base_eq := h.base_eq.symm
  filter_eq := h.filter_eq.symm
  active_eq := h.active_eq.symm
  overrides_eq := h.overrides_eq.symm

/-- Every call keeps two differs the same. -/
theorem EqualButPlace.after (h : d.EqualButPlace d') (change : Change ι) :
    (d.after change).EqualButPlace (d'.after change) := by
  obtain ⟨hresolver, hresolved, hbase, hfilter, hactive, hoverrides⟩ := h
  have hnames : d.resolvedNames = d'.resolvedNames := by rw [resolvedNames, resolvedNames, hresolved]
  cases change with
  | includeNames names =>
    refine ⟨hresolver, hresolved, hbase, ?_, ?_, hoverrides⟩
    · exact congrArg (fun f => (f.addIncluded names).1) hfilter
    · exact congrArg₂ (fun f ns => ((f.addIncluded names).1.apply ns)) hfilter hnames
  | excludeNames names =>
    refine ⟨hresolver, hresolved, hbase, ?_, ?_, hoverrides⟩
    · exact congrArg (fun f => (f.addExcluded names).1) hfilter
    · exact congrArg₂ (fun f ns => ((f.addExcluded names).1.apply ns)) hfilter hnames
  | setNullsLast nullsLast =>
    have hsame : d.EqualButPlace d' :=
      ⟨hresolver, hresolved, hbase, hfilter, hactive, hoverrides⟩
    exact ((d.setNullsLast_equalButPlace nullsLast).trans hsame).trans
      (d'.setNullsLast_equalButPlace nullsLast).symm
  | setComparator name c =>
    exact ⟨hresolver, hresolved, hbase, hfilter, hactive,
      congrArg (Members.set name c) hoverrides⟩
  | setBase c => exact ⟨hresolver, hresolved, rfl, hfilter, hactive, hoverrides⟩

/-- Each attribute is compared by comparators that tell the same values apart. -/
theorem EqualButPlace.sameVerdicts (h : d.EqualButPlace d') (hd : d.UpToDate) (hd' : d'.UpToDate)
    (name : String) : (d.comparatorFor name).SameVerdicts (d'.comparatorFor name) := by
  have hkind : d.declaredKind name = d'.declaredKind name := by
    rw [declaredKind, declaredKind, h.resolved_eq]
  rw [hd.comparatorFor_eq, hd'.comparatorFor_eq, h.overrides_eq, hkind]
  cases Members.get? name d'.overrides with
  | none => exact Comparator.sameVerdicts_forKind _ _ _
  | some c => exact .refl c

theorem EqualButPlace.diff_eq (h : d.EqualButPlace d') (hd : d.UpToDate) (hd' : d'.UpToDate)
    (operands : Operands ι) : d.diff operands = d'.diff operands :=
  diff_eq_of_entriesOf h.resolver_eq h.active_eq
    (fun _ _ => entriesOf_eq_of_sameVerdicts (h.sameVerdicts hd hd') _) operands

/-- Missing operands make no difference: the error names the type alone. -/
theorem EqualButPlace.diffIfPresent_eq (h : d.EqualButPlace d') (hd : d.UpToDate)
    (hd' : d'.UpToDate) (operands : Operands (Option ι)) :
    d.diffIfPresent operands = d'.diffIfPresent operands := by
  have htype : d.typeName = d'.typeName := congrArg Resolver.typeName h.resolver_eq
  rw [diffIfPresent, diffIfPresent]
  cases operands.present with
  | ok instances => exact h.diff_eq hd hd' instances
  | error missing => rw [htype]

end Differ

/-! ### Runs of calls -/

/-- The calls that do not place absent values. -/
def placeless {ι : Type} (changes : List (Change ι)) : List (Change ι) :=
  changes.filter fun change => change.nullsLast?.isNone

namespace Differ

/-- A run of calls does the same apart from placing absent values. -/
theorem equalButPlace_placeless (r : Resolver ι) (changes : List (Change ι)) :
    (configured r changes).EqualButPlace (configured r (placeless changes)) := by
  induction changes using List.reverseRecOn with
  | nil => exact .refl _
  | append_singleton changes change ih =>
    rw [configured_concat, placeless, List.filter_append]
    cases change with
    | setNullsLast nullsLast =>
      rw [List.filter_cons_of_neg Bool.false_ne_true, List.filter_nil, List.append_nil]
      exact (setNullsLast_equalButPlace _ nullsLast).trans ih
    | _ =>
      rw [List.filter_cons_of_pos rfl, List.filter_nil, configured_concat]
      exact ih.after _

theorem equalButPlace_of_placeless_eq (r : Resolver ι) {changes₁ changes₂ : List (Change ι)}
    (h : placeless changes₁ = placeless changes₂) :
    (configured r changes₁).EqualButPlace (configured r changes₂) := by
  have h₂ := equalButPlace_placeless r changes₂
  rw [← h] at h₂
  exact (equalButPlace_placeless r changes₁).trans h₂.symm

/-- **The place of absent values does not change any difference.** Whatever a differ was told
besides, it gives the same entries in the same order, or the same failure, and reports the same on
the way, be absent values last or first. More generally this holds of every two runs of calls that
are the same but for the calls that place absent values, wherever these stand in the runs, and of
settings that are the same but for that place. -/
theorem diff_ignores_nullsLast (r : Resolver ι) :
    (∀ changes operands,
      (configured r (changes ++ [.setNullsLast false])).diff operands =
        (configured r (changes ++ [.setNullsLast true])).diff operands) ∧
    (∀ changes₁ changes₂, placeless changes₁ = placeless changes₂ →
      (∀ operands, (configured r changes₁).diff operands = (configured r changes₂).diff operands) ∧
      ∀ first last, (configured r changes₁).diffOptional first last =
        (configured r changes₂).diffOptional first last) ∧
    ∀ (t : TypeDescriptor ι) (s : Settings) (operands : Operands ι),
      (ofSettings t { s with nullsLast := false }).value.diff operands =
        (ofSettings t { s with nullsLast := true }).value.diff operands := by
  have hruns : ∀ (r : Resolver ι) (changes₁ changes₂ : List (Change ι)),
      placeless changes₁ = placeless changes₂ → ∀ operands,
      (configured r changes₁).diff operands = (configured r changes₂).diff operands := by
    intro r changes₁ changes₂ h
    exact (equalButPlace_of_placeless_eq r h).diff_eq (upToDate_configured r changes₁)
      (upToDate_configured r changes₂)
  refine ⟨fun changes => ?last, fun changes₁ changes₂ h => ?runs, fun t s operands => ?settings⟩
  case last =>
    refine hruns r _ _ ?_
    rw [placeless, placeless, List.filter_append, List.filter_append]
    rfl
  case runs =>
    refine ⟨hruns r changes₁ changes₂ h, fun first last => ?_⟩
    exact (equalButPlace_of_placeless_eq r h).diffIfPresent_eq (upToDate_configured r changes₁)
      (upToDate_configured r changes₂) (.separate first last)
  case settings =>
    rw [Recipe.value_ofSettings, Recipe.value_ofSettings]
    exact hruns t.resolver (Recipe.settingsChanges { s with nullsLast := false })
      (Recipe.settingsChanges { s with nullsLast := true }) rfl operands

/-- A parcel without a label and with a gap in its route. -/
def gapParcel : List (String × Value) :=
  [("label", .null), ("weight", .long 1), ("route", .list [.null])]

/-- A parcel without a label comes before or after one that has a label, and the entries are the
same. -/
theorem diff_ignores_nullsLast_parcels :
    placeless parcelChanges = placeless (parcelChanges ++ [.setNullsLast false]) ∧
      ((configured parcels.resolver []).compare (some gapParcel) (some lightParcel)).value =
        .ok .lt ∧
      ((configured parcels.resolver [.setNullsLast true]).compare (some gapParcel)
        (some lightParcel)).value = .ok .gt ∧
      ((configured parcels.resolver [.setNullsLast false]).diff
        (.separate gapParcel lightParcel)).value =
          .ok [⟨"label", .null, .string "a"⟩, ⟨"route", .list [.null], .list []⟩] ∧
      ((configured parcels.resolver [.setNullsLast true]).diff
        (.separate gapParcel lightParcel)).value =
          .ok [⟨"label", .null, .string "a"⟩, ⟨"route", .list [.null], .list []⟩] ∧
      ((configured parcels.resolver parcelChanges).diffOptional (some gapParcel)
        (some lightParcel)).value = .ok [⟨"route", .list [.null], .list []⟩] := by
  have hplaceless : placeless parcelChanges =
      placeless (parcelChanges ++ [.setNullsLast false]) := rfl
  have hfirst : ((configured parcels.resolver [.setNullsLast false]).diff
      (.separate gapParcel lightParcel)).value =
        .ok [⟨"label", .null, .string "a"⟩, ⟨"route", .list [.null], .list []⟩] := rfl
  have hroute : ((configured parcels.resolver (parcelChanges ++ [.setNullsLast false])).diffOptional
      (some gapParcel) (some lightParcel)).value = .ok [⟨"route", .list [.null], .list []⟩] := rfl
  obtain ⟨hlast, hruns, -⟩ := diff_ignores_nullsLast parcels.resolver
  have hsame := congrArg Logged.value (hlast [] (.separate gapParcel lightParcel))
  refine ⟨hplaceless, rfl, rfl, hfirst, hsame.symm.trans hfirst, ?_⟩
  rw [(hruns _ _ hplaceless).2, hroute]

end Differ

end RecordDiff
