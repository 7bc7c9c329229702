import RecordDiff.Proofs.AttributeComparator
import RecordDiff.Proofs.AttributeLocal
import Mathlib.Data.List.Zip

/-!
# Exchanging the instances

Whether an audit is run forwards or backwards must not matter. When the two instances of a
comparison are exchanged, the same attributes differ, with their values exchanged, and the order of
the instances is the opposite one. Where a comparison fails its mirror image fails at the same
attribute; only the cause may be another one, since an error names the operand that was looked at
first.

That an attribute cannot be read from one of the instances is no obstacle: it is skipped in both
directions.

## Main definitions

* `Operands.swap`, `Entry.swap` - the operands in the other order, an entry with its values
  exchanged
* `Differ.Mirrored` - two outcomes that are mirror images of each other

## Main results

* `Differ.entriesOf_mirrored`, `Differ.orderOf_opposes` - one lemma for each of the two loops
* `Differ.diff_symmetric` - differences and orders of exchanged instances
-/

namespace RecordDiff

open Comparison

/-- The operands in the other order. -/
def Operands.swap {ι : Type} : Operands ι → Operands ι
  | .shared x => .shared x
  | .separate first last => .separate last first

/-- The entry with its two values exchanged. -/
def Entry.swap (e : Entry) : Entry := ⟨e.property, e.last, e.first⟩

namespace Differ

variable {ι : Type} {d : Differ ι}

/-! ### Mirror images -/

/-- The outcomes are mirror images: the same entries with their values exchanged, or failures at the
same attribute. -/
inductive Mirrored : Except DiffError (List Entry) → Except DiffError (List Entry) → Prop
  | entries (es : List Entry) : Mirrored (.ok es) (.ok (es.map Entry.swap))
  | failure (name : String) (cause cause' : CompareError) :
      Mirrored (.error (.comparison name cause)) (.error (.comparison name cause'))

variable {r r' : Except DiffError (List Entry)}

theorem mirrored_ok_iff {es : List Entry} : Mirrored (.ok es) r ↔ r = .ok (es.map Entry.swap) := by
  constructor
  · intro h
    cases h
    rfl
  · rintro rfl
    exact .entries es

theorem Mirrored.exists_of_error {name : String} {cause : CompareError}
    (h : Mirrored (.error (.comparison name cause)) r) :
    ∃ cause', r = .error (.comparison name cause') := by
  cases h with
  | failure _ _ cause' => exact ⟨cause', rfl⟩

theorem Mirrored.cons (h : Mirrored r r') (e : Entry) :
    Mirrored (r.map (e :: ·)) (r'.map (e.swap :: ·)) := by
  cases h with
  | entries es => exact .entries (e :: es)
  | failure name cause cause' => exact .failure name cause cause'

/-! ### The pairs of values -/

/-- The attribute with its two values exchanged. -/
def swapPair (p : String × Option (Value × Value)) : String × Option (Value × Value) :=
  (p.1, p.2.map Prod.swap)

/-- A value is missing in one direction if it is in the other. -/
theorem bothValues_swap (first last : Reading) :
    bothValues last first = (bothValues first last).map Prod.swap := by
  cases first <;> cases last <;> rfl

theorem value_readPairs_swap (d : Differ ι) (first last : ι) :
    (d.readPairs last first).value = (d.readPairs first last).value.map swapPair := by
  have hswap : (d.resolver.readMany last d.active).zip (d.resolver.readMany first d.active) =
      ((d.resolver.readMany first d.active).zip
        (d.resolver.readMany last d.active)).map Prod.swap :=
    (List.zip_swap _ _).symm
  unfold readPairs
  rw [value_pairUp, value_pairUp, hswap, List.zip_map_right, List.map_map, List.map_map]
  refine List.map_congr_left fun x _ => ?_
  exact congrArg (x.1, ·) (bothValues_swap x.2.1 x.2.2)

/-! ### The two loops -/

variable {pairs : List (String × Option (Value × Value))}

theorem compareValues_opposes {name : String} (h : (d.comparatorFor name).Antisymmetric)
    (u v : Value) : (d.compareValues name u v).Opposes (d.compareValues name v u) :=
  h u.present? v.present?

/-- The loop that collects entries finds the mirror image. -/
theorem entriesOf_mirrored (h : ∀ p ∈ pairs, (d.comparatorFor p.1).Antisymmetric) :
    Mirrored (d.entriesOf pairs) (d.entriesOf (pairs.map swapPair)) := by
  induction pairs with
  | nil => exact .entries []
  | cons p pairs ih =>
    obtain ⟨hp, hrest⟩ := List.forall_mem_cons.mp h
    have hmirrored := ih hrest
    rcases d.ties_or p with ht | ⟨name, u, v, rfl, ⟨o, ho, hc⟩ | ⟨cause, hc⟩⟩
    · have ht' : d.Ties (swapPair p) := by
        obtain ⟨name, _ | ⟨u, v⟩⟩ := p
        · exact d.ties_none name
        · exact ties_some_iff.mpr (compareValues_opposes hp u v _ (ties_some_iff.mp ht))
      rw [List.map_cons, entriesOf_of_ties ht, entriesOf_of_ties ht']
      exact hmirrored
    · have hc' : d.compareValues name v u = .ok o.swap := compareValues_opposes hp u v o hc
      have ho' : o.swap ≠ .eq := fun hswap => ho (Ordering.swap_eq_eq.mp hswap)
      have hswapped : d.entriesOf (swapPair (name, some (u, v)) :: pairs.map swapPair) =
          (d.entriesOf (pairs.map swapPair)).map (⟨name, v, u⟩ :: ·) :=
        entriesOf_of_differs ho' hc'
      rw [List.map_cons, entriesOf_of_differs ho hc, hswapped]
      exact hmirrored.cons ⟨name, u, v⟩
    · obtain ⟨cause', hc'⟩ := (hp.fails_iff u.present? v.present?).mp ⟨cause, hc⟩
      have hswapped : d.entriesOf (swapPair (name, some (u, v)) :: pairs.map swapPair) =
          .error (.comparison name cause') :=
        entriesOf_of_error hc'
      rw [List.map_cons, entriesOf_of_error hc, hswapped]
      exact .failure name cause cause'

/-- The loop that looks for the first difference finds the opposite order. -/
theorem orderOf_opposes (h : ∀ p ∈ pairs, (d.comparatorFor p.1).Antisymmetric) :
    (d.orderOf pairs).Opposes (d.orderOf (pairs.map swapPair)) := by
  induction pairs with
  | nil => exact opposes_ok .eq
  | cons p pairs ih =>
    obtain ⟨hp, hrest⟩ := List.forall_mem_cons.mp h
    obtain ⟨name, _ | ⟨u, v⟩⟩ := p
    · exact ih hrest
    · exact (compareValues_opposes hp u v).thenWith (ih hrest)

/-! ### Instances -/

theorem diff_mirrored (h : ∀ name, (d.comparatorFor name).Antisymmetric) (operands : Operands ι) :
    Mirrored (d.diff operands).value (d.diff operands.swap).value := by
  cases operands with
  | shared x => exact .entries []
  | separate first last =>
    rw [Operands.swap, value_diff_separate, value_diff_separate, d.value_readPairs_swap first last]
    exact entriesOf_mirrored fun p _ => h p.1

theorem orderByAttributes_opposes (h : ∀ name, (d.comparatorFor name).Antisymmetric)
    (operands : Operands ι) :
    (d.orderByAttributes operands).value.Opposes (d.orderByAttributes operands.swap).value := by
  cases operands with
  | shared x => exact opposes_ok .eq
  | separate first last =>
    change (d.orderOf (d.readPairs first last).value).Opposes
      (d.orderOf (d.readPairs last first).value)
    rw [d.value_readPairs_swap first last]
    exact orderOf_opposes fun p _ => h p.1

/-- The differ is an antisymmetric comparator for instances, absent ones included. -/
theorem antisymmetric_comparator (h : ∀ name, (d.comparatorFor name).Antisymmetric)
    (hbase : ∀ base ∈ d.base?, base.Antisymmetric) : d.comparator.Antisymmetric := by
  intro first last
  change (d.compare first last).value.Opposes (d.compare last first).value
  unfold compare
  cases hd : d.base? with
  | some base => exact hbase base hd first last
  | none =>
    rcases first with _ | a <;> rcases last with _ | b
    case none.none => exact opposes_ok .eq
    case none.some => exact opposes_ok _
    case some.none => cases d.nullsLast <;> exact opposes_ok _
    case some.some => exact orderByAttributes_opposes h (.separate a b)

theorem comparePresent_opposes (h : ∀ name, (d.comparatorFor name).Antisymmetric)
    (hbase : ∀ base ∈ d.base?, base.Antisymmetric) (operands : Operands ι) :
    (d.comparePresent operands).value.Opposes (d.comparePresent operands.swap).value := by
  unfold comparePresent
  cases hd : d.base? with
  | none => exact orderByAttributes_opposes h operands
  | some base =>
    cases operands with
    | shared x => exact hbase base hd (some x) (some x)
    | separate first last => exact hbase base hd (some first) (some last)

/-- **Comparing is symmetric.** After every run of calls that sets antisymmetric comparators only,
if any, the difference of exchanged operands is the mirror image: the same attributes in the same
order with their values exchanged, or a failure at the same attribute. Without a comparator for
whole instances, or with an antisymmetric one, the order of exchanged operands is the opposite one,
absent operands included, and one of them fails exactly when the other does. -/
theorem diff_symmetric (d : Differ ι) (hd : d.Reachable)
    (hset : ∀ m ∈ d.overrides, m.2.Antisymmetric) :
    (∀ operands, Mirrored (d.diff operands).value (d.diff operands.swap).value) ∧
    ((∀ base ∈ d.base?, base.Antisymmetric) →
      (∀ first last, (d.compare first last).value.Opposes (d.compare last first).value) ∧
      (∀ first last, (∃ e, (d.compare first last).value = .error e) ↔
        ∃ e, (d.compare last first).value = .error e) ∧
      ∀ operands,
        (d.comparePresent operands).value.Opposes (d.comparePresent operands.swap).value) := by
  have h : ∀ name, (d.comparatorFor name).Antisymmetric :=
    hd.upToDate.antisymmetric_comparatorFor hset
  refine ⟨diff_mirrored h, fun hbase => ⟨?_, ?_, comparePresent_opposes h hbase⟩⟩
  · exact antisymmetric_comparator h hbase
  · exact (antisymmetric_comparator h hbase).fails_iff

/-- Compares parcels, with labels in falling order. -/
def fallingLabels : Differ (List (String × Value)) :=
  configured parcels.resolver
    [.setComparator "label" (Comparator.forKind .string false).reversed, .setNullsLast true]

/-- Two parcels of which one has no route, two of which the weights cannot be compared, and a parcel
that is missing. -/
theorem diff_symmetric_parcels :
    fallingLabels.Reachable ∧ (∀ m ∈ fallingLabels.overrides, m.2.Antisymmetric) ∧
      (∀ base ∈ fallingLabels.base?, base.Antisymmetric) ∧
      (fallingLabels.diff (.separate lightParcel heavyParcel)).value =
        .ok [⟨"label", .string "a", .string "b"⟩, ⟨"weight", .long 1, .long 2⟩] ∧
      (fallingLabels.diff (.separate heavyParcel lightParcel)).value =
        .ok [⟨"label", .string "b", .string "a"⟩, ⟨"weight", .long 2, .long 1⟩] ∧
      (fallingLabels.diff (.separate lightParcel oddParcel)).value =
        .error (.comparison "weight" (.incomparable "long" "string")) ∧
      (∃ cause, (fallingLabels.diff (.separate oddParcel lightParcel)).value =
        .error (.comparison "weight" cause)) ∧
      (fallingLabels.compare (some lightParcel) (some heavyParcel)).value = .ok .gt ∧
      (fallingLabels.compare (some heavyParcel) (some lightParcel)).value = .ok .lt ∧
      (fallingLabels.compare none (some lightParcel)).value = .ok .gt ∧
      (fallingLabels.compare (some lightParcel) none).value = .ok .lt := by
  have hreachable : fallingLabels.Reachable := ⟨_, _, rfl⟩
  have hset : ∀ m ∈ fallingLabels.overrides, m.2.Antisymmetric :=
    List.forall_mem_singleton.mpr (Comparator.lawful_forKind .string false).reversed.antisymmetric
  have hdiff : (fallingLabels.diff (.separate lightParcel heavyParcel)).value =
      .ok [⟨"label", .string "a", .string "b"⟩, ⟨"weight", .long 1, .long 2⟩] := rfl
  have hodd : (fallingLabels.diff (.separate lightParcel oddParcel)).value =
      .error (.comparison "weight" (.incomparable "long" "string")) := rfl
  have horder : (fallingLabels.compare (some lightParcel) (some heavyParcel)).value = .ok .gt := rfl
  have hmissing : (fallingLabels.compare none (some lightParcel)).value = .ok .gt := rfl
  obtain ⟨hmirrored, hopposes⟩ := diff_symmetric fallingLabels hreachable hset
  obtain ⟨hcompare, -, -⟩ := hopposes nofun
  have hforth := hmirrored (.separate lightParcel heavyParcel)
  have hfails := hmirrored (.separate lightParcel oddParcel)
  rw [hdiff] at hforth
  rw [hodd] at hfails
  exact ⟨hreachable, hset, nofun, hdiff, mirrored_ok_iff.mp hforth, hodd, hfails.exists_of_error,
    horder, hcompare _ _ _ horder, hmissing, hcompare _ _ _ hmissing⟩

end Differ

end RecordDiff
