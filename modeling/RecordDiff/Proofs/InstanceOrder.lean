import RecordDiff.Proofs.Configuration

/-!
# The order of instances and their difference

A differ without a comparator for whole instances orders them by their attributes. The order and the
difference come from two loops over the same pairs of values, and they treat errors differently: the
order is decided by the first attribute that does not tie and looks no further, while the difference
goes on and fails at any attribute that cannot be compared. So the two may part ways, but only
behind the attribute that decides the order.

## Main results

* `Differ.diff_of_decided` - the difference of instances whose order is decided at some attribute
* `Differ.compare_agrees_diff` - how the order and the difference of two instances go together
-/

namespace RecordDiff.Differ

variable {ι : Type} {d : Differ ι}

/-- Where an attribute decides the order of two instances, the difference starts with its entry, or
it fails at an attribute that comes later. -/
theorem diff_of_decided {first last : ι} {name : String} {u v : Value} {o : Ordering}
    {before after : List (String × Option (Value × Value))}
    (hpairs : (d.readPairs first last).value = before ++ (name, some (u, v)) :: after)
    (hties : ∀ p ∈ before, d.Ties p) (ho : o ≠ .eq) (hc : d.compareValues name u v = .ok o) :
    (∃ entries, (d.diff (.separate first last)).value = .ok (⟨name, u, v⟩ :: entries)) ∨
      ∃ j later cause, before.length < j ∧ d.active[j]? = some later ∧
        (d.diff (.separate first last)).value = .error (.comparison later cause) := by
  have hdiff : (d.diff (.separate first last)).value =
      (d.entriesOf after).map (⟨name, u, v⟩ :: ·) := by
    rw [value_diff_separate, hpairs, entriesOf_append_of_ties hties, entriesOf_of_differs ho hc]
  rw [hdiff]
  cases hafter : d.entriesOf after with
  | ok entries => exact Or.inl ⟨entries, rfl⟩
  | error e =>
    obtain ⟨later, u', v', cause, hmem, -, rfl⟩ := exists_of_entriesOf_error hafter
    obtain ⟨k, hk⟩ := List.mem_iff_getElem?.mp hmem
    have hpair : (d.readPairs first last).value[before.length + (k + 1)]? =
        some (later, some (u', v')) := by
      rw [hpairs, List.getElem?_append_right (by omega), Nat.add_sub_cancel_left,
        List.getElem?_cons_succ]
      exact hk
    exact Or.inr ⟨_, later, cause, by omega, getElem?_active_of_readPairs hpair, rfl⟩

/-- **The order of whole instances and their difference agree.** For a differ without a comparator
for whole instances, two instances are equal exactly when they do not differ. Where they are ordered
otherwise, an attribute decides that: those before it tie, its comparator gives the outcome, and it
is the first one in the difference - unless the difference fails at an attribute that comes later.
An error of the order is the error of the difference, which names the attribute; and where there is
a difference, the order does not fail. -/
theorem compare_agrees_diff (d : Differ ι) (hd : d.Reachable) (hbase : d.base? = none)
    (first last : ι) :
    d.active.Sublist d.resolvedNames ∧
    ((d.compare (some first) (some last)).value = .ok .eq ↔
      (d.diff (.separate first last)).value = .ok []) ∧
    (∀ o, o ≠ .eq → (d.compare (some first) (some last)).value = .ok o →
      ∃ i name u v, (d.readPairs first last).value[i]? = some (name, some (u, v)) ∧
        d.active[i]? = some name ∧
        (∀ p ∈ (d.readPairs first last).value.take i, d.Ties p) ∧
        (d.comparatorFor name).compare u.present? v.present? = .ok o ∧
        ((∃ entries, (d.diff (.separate first last)).value = .ok (⟨name, u, v⟩ :: entries)) ∨
          ∃ j later cause, i < j ∧ d.active[j]? = some later ∧
            (d.diff (.separate first last)).value = .error (.comparison later cause))) ∧
    (∀ e, (d.compare (some first) (some last)).value = .error e →
      ∃ name ∈ d.active, (d.diff (.separate first last)).value = .error (.comparison name e)) ∧
    ∀ entries, (d.diff (.separate first last)).value = .ok entries →
      ∃ o, (d.compare (some first) (some last)).value = .ok o := by
  have hfails : ∀ e, (d.compare (some first) (some last)).value = .error e →
      ∃ name ∈ d.active, (d.diff (.separate first last)).value = .error (.comparison name e) := by
    intro e he
    rw [value_compare_some hbase] at he
    obtain ⟨before, name, u, v, after, hpairs, hties, hc⟩ := orderOf_decided he nofun
    have hmem : (name, some (u, v)) ∈ (d.readPairs first last).value := by
      rw [hpairs]
      exact List.mem_append_right _ List.mem_cons_self
    refine ⟨name, mem_active_of_mem_readPairs hmem, ?_⟩
    rw [value_diff_separate, hpairs, entriesOf_append_of_ties hties, entriesOf_of_error hc]
  refine ⟨?discovery, ?equal, ?decided, hfails, ?succeeds⟩
  case discovery =>
    rw [hd.upToDate.active_eq]
    exact List.filter_sublist
  case equal =>
    rw [value_compare_some hbase, value_diff_separate, orderOf_eq_ok_eq_iff,
      entriesOf_eq_ok_nil_iff]
  case decided =>
    intro o ho hcompare
    rw [value_compare_some hbase] at hcompare
    have hne : (.ok o : Comparison) ≠ .ok .eq := fun h => ho (Except.ok.inj h)
    obtain ⟨before, name, u, v, after, hpairs, hties, hc⟩ := orderOf_decided hcompare hne
    have hpair : (d.readPairs first last).value[before.length]? = some (name, some (u, v)) := by
      rw [hpairs, List.getElem?_append_right (Nat.le_refl _), Nat.sub_self,
        List.getElem?_cons_zero]
    refine ⟨before.length, name, u, v, hpair, getElem?_active_of_readPairs hpair, ?_, hc,
      diff_of_decided hpairs hties ho hc⟩
    rw [hpairs, List.take_left]
    exact hties
  case succeeds =>
    intro entries hentries
    cases hcompare : (d.compare (some first) (some last)).value with
    | ok o => exact ⟨o, rfl⟩
    | error e =>
      obtain ⟨name, -, herror⟩ := hfails e hcompare
      exact nomatch hentries.symm.trans herror

/-- Parcels of which the labels decide the order and the weights cannot be compared, and which
cannot be ordered when their labels are left out; and parcels that differ only in a route that may
not be read. -/
theorem compare_agrees_diff_parcels :
    (configured parcels.resolver []).Reachable ∧
      (configured parcels.resolver []).base? = none ∧
      ((configured parcels.resolver []).compare
        (some [("label", .string "a"), ("weight", .long 1)])
        (some [("label", .string "b"), ("weight", .string "1")])).value = .ok .lt ∧
      (∃ (i : ℕ) (name : String) (u v : Value),
        ((configured parcels.resolver []).readPairs
          [("label", .string "a"), ("weight", .long 1)]
          [("label", .string "b"), ("weight", .string "1")]).value[i]? =
            some (name, some (u, v)) ∧
        ((configured parcels.resolver []).comparatorFor name).compare u.present? v.present? =
          .ok .lt) ∧
      (∃ name ∈ (configured parcels.resolver [.excludeNames ["label"]]).active,
        ((configured parcels.resolver [.excludeNames ["label"]]).diff
          (.separate [("label", .string "a"), ("weight", .long 1)]
            [("label", .string "b"), ("weight", .string "1")])).value =
          .error (.comparison name (.incomparable "long" "string"))) ∧
      ((configured parcels.resolver []).diff
        (.separate [("weight", .long 1), ("route", .list [])] [("weight", .long 1)])).value =
          .ok [] ∧
      ∃ o, ((configured parcels.resolver []).compare
        (some [("weight", .long 1), ("route", .list [])]) (some [("weight", .long 1)])).value =
          .ok o := by
  have hreachable : ∀ changes, (configured parcels.resolver changes).Reachable :=
    fun changes => ⟨_, changes, rfl⟩
  obtain ⟨-, -, hdecided, -, -⟩ := compare_agrees_diff _ (hreachable []) rfl
    [("label", .string "a"), ("weight", .long 1)] [("label", .string "b"), ("weight", .string "1")]
  have hlt : ((configured parcels.resolver []).compare
      (some [("label", .string "a"), ("weight", .long 1)])
      (some [("label", .string "b"), ("weight", .string "1")])).value = .ok .lt := by
    decide +kernel
  obtain ⟨i, name, u, v, hpair, -, -, hc, -⟩ := hdecided .lt nofun hlt
  obtain ⟨-, -, -, hfails, -⟩ := compare_agrees_diff _ (hreachable [.excludeNames ["label"]]) rfl
    [("label", .string "a"), ("weight", .long 1)] [("label", .string "b"), ("weight", .string "1")]
  obtain ⟨-, hequal, -, -, hsucceeds⟩ := compare_agrees_diff _ (hreachable []) rfl
    [("weight", .long 1), ("route", .list [])] [("weight", .long 1)]
  have hsame := hequal.mp (by decide +kernel)
  exact ⟨hreachable [], rfl, hlt, ⟨i, name, u, v, hpair, hc⟩, hfails _ (by decide +kernel), hsame,
    hsucceeds [] hsame⟩

end RecordDiff.Differ
