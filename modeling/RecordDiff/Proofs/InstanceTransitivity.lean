import RecordDiff.Proofs.AttributeComparator
import RecordDiff.Proofs.AttributeLocal

/-!
# Transitivity of the order of instances

The order of whole instances is that of the first attribute that does not tie, where an attribute
that cannot be read from one of the two is passed over. Which attributes take part thus depends on
the pair, and for that reason the order is not transitive: of three instances the outer two may be
compared by an attribute that both comparisons with the middle one pass over, and they may pass over
the one that decides such a comparison.

Nothing else goes wrong. Only the attributes matter that both comparisons with the middle instance
get to. The order composes if each of these that can be read from the outer two can be read from the
middle one, and if one that tells the middle one from a neighbour can be read from all three.

## Main definitions

* `Differ.Readable` - an attribute can be read from an instance
* `Differ.Reached` - both comparisons with the middle instance get to an attribute
* `Differ.EvenlyRead` - no comparison passes over an attribute that counts in another one

## Main results

* `Differ.compare_not_transitive` - the order of instances is not transitive, for three reasons
* `Differ.orderOf_composes` - the loop over the attributes composes without these reasons
* `Differ.compare_transitive` - and so does the order of instances
-/

namespace RecordDiff.Differ

open Comparison

variable {ι : Type} {d : Differ ι} {read : ι → String → Reading} {a b c : ι} {name : String}
  {names : List String}

/-! ### Attributes of three instances -/

/-- The attribute can be read from the instance. -/
def Readable (read : ι → String → Reading) (x : ι) (name : String) : Prop :=
  ∃ v, read x name = .ok v

/-- The comparisons of `a` with `b` and of `b` with `c` both get to the attribute: all those before
it tie in both of them. -/
def Reached (d : Differ ι) (read : ι → String → Reading) (a b c : ι) (names : List String)
    (name : String) : Prop :=
  ∃ before after, names = before ++ name :: after ∧
    ∀ other ∈ before, d.Ties (pairBy read a b other) ∧ d.Ties (pairBy read b c other)

/-- No comparison of two of the instances passes over the attribute where that matters. -/
structure EvenlyRead (d : Differ ι) (read : ι → String → Reading) (a b c : ι) (name : String) :
    Prop where
  /-- What can be read from the outer two can be read from the middle one. -/
  middle : Readable read a name → Readable read c name → Readable read b name
  /-- What tells the last two apart can be read from the first one. -/
  first : ¬ d.Ties (pairBy read b c name) → Readable read a name
  /-- What tells the first two apart can be read from the last one. -/
  last : ¬ d.Ties (pairBy read a b name) → Readable read c name

theorem reached_head (d : Differ ι) (read : ι → String → Reading) (a b c : ι) (name : String)
    (rest : List String) : d.Reached read a b c (name :: rest) name :=
  ⟨[], rest, rfl, List.forall_mem_nil _⟩

/-- What is reached behind an attribute that ties is reached. -/
theorem Reached.cons {other : String} (h : d.Reached read a b c names name)
    (hab : d.Ties (pairBy read a b other)) (hbc : d.Ties (pairBy read b c other)) :
    d.Reached read a b c (other :: names) name := by
  obtain ⟨before, after, rfl, hbefore⟩ := h
  exact ⟨other :: before, after, rfl, List.forall_mem_cons.mpr ⟨⟨hab, hbc⟩, hbefore⟩⟩

/-- An attribute that tells two instances apart can be read from both. -/
theorem readable_of_not_ties (h : ¬ d.Ties (pairBy read a b name)) :
    Readable read a name ∧ Readable read b name := by
  cases hvalues : bothValues (read a name) (read b name) with
  | none =>
    rw [pairBy, hvalues] at h
    exact absurd (d.ties_none name) h
  | some values =>
    obtain ⟨ha, hb⟩ := bothValues_eq_some_iff.mp hvalues
    exact ⟨⟨_, ha⟩, ⟨_, hb⟩⟩

theorem pairBy_of_ok {u v : Value} (ha : read a name = .ok u) (hb : read b name = .ok v) :
    pairBy read a b name = (name, some (u, v)) := by
  rw [pairBy, ha, hb]
  rfl

/-! ### The loop over the attributes -/

theorem compareValues_composes (h : (d.comparatorFor name).Lawful) (u v w : Value) :
    (d.compareValues name u v).Composes (d.compareValues name v w) (d.compareValues name u w) :=
  h.composes u.present? v.present? w.present?

/-- An attribute that ties in both comparisons with the middle instance ties for the outer two, if
it can be read from the middle one wherever it matters. -/
theorem ties_of_ties (hlaw : (d.comparatorFor name).Lawful)
    (hread : Readable read a name → Readable read c name → Readable read b name)
    (hab : d.Ties (pairBy read a b name)) (hbc : d.Ties (pairBy read b c name)) :
    d.Ties (pairBy read a c name) := by
  intro u w huw
  obtain ⟨ha, hc⟩ := bothValues_eq_some_iff.mp huw
  obtain ⟨v, hb⟩ := hread ⟨u, ha⟩ ⟨w, hc⟩
  rw [pairBy_of_ok ha hb, ties_some_iff] at hab
  rw [pairBy_of_ok hb hc, ties_some_iff] at hbc
  exact compareValues_composes hlaw u v w _ _ hab hbc nofun nofun

/-- The loop that looks for the first difference composes. The induction goes down to the attribute
that decides one of the comparisons with the middle instance; it is read from all three, and what
comes after it does not count. -/
theorem orderOf_composes (hlaw : ∀ name ∈ names, (d.comparatorFor name).Lawful)
    (hread : ∀ name, d.Reached read a b c names name → d.EvenlyRead read a b c name) :
    (d.orderOf (names.map (pairBy read a b))).Composes (d.orderOf (names.map (pairBy read b c)))
      (d.orderOf (names.map (pairBy read a c))) := by
  induction names with
  | nil => exact composes_eq_left _
  | cons name rest ih =>
    obtain ⟨hlawName, hlawRest⟩ := List.forall_mem_cons.mp hlaw
    have heven := hread name (d.reached_head read a b c name rest)
    rw [List.map_cons, List.map_cons, List.map_cons]
    by_cases hties : d.Ties (pairBy read a b name) ∧ d.Ties (pairBy read b c name)
    · obtain ⟨hab, hbc⟩ := hties
      rw [orderOf_of_ties hab, orderOf_of_ties hbc,
        orderOf_of_ties (ties_of_ties hlawName heven.middle hab hbc)]
      exact ih hlawRest fun other hother => hread other (hother.cons hab hbc)
    · have hall : Readable read a name ∧ Readable read b name ∧ Readable read c name := by
        rcases not_and_or.mp hties with hab | hbc
        · obtain ⟨ha, hb⟩ := readable_of_not_ties hab
          exact ⟨ha, hb, heven.last hab⟩
        · obtain ⟨hb, hc⟩ := readable_of_not_ties hbc
          exact ⟨heven.first hbc, hb, hc⟩
      obtain ⟨⟨u, ha⟩, ⟨v, hb⟩, ⟨w, hc⟩⟩ := hall
      rw [pairBy_of_ok ha hb, pairBy_of_ok hb hc] at hties
      rw [pairBy_of_ok ha hb, pairBy_of_ok hb hc, pairBy_of_ok ha hc]
      refine (compareValues_composes hlawName u v w).thenWith_of_ties fun huv hvw => ?_
      exact absurd ⟨ties_some_iff.mpr huv, ties_some_iff.mpr hvw⟩ hties

/-! ### The order of instances -/

/-- **The order of instances is not transitive.** Of parcels without any comparator of their own,
the outer two are out of order each time: their labels count, which cannot be read from the middle
one; or their weights count, since the label that puts the first one before the second cannot be
read from the third, or the one that puts the second before the third cannot be read from the
first. -/
theorem compare_not_transitive :
    (configured parcels.resolver []).base? = none ∧
      (configured parcels.resolver []).overrides = [] ∧
      (((configured parcels.resolver []).compare (some [("label", .string "b")]) (some [])).value =
          .ok .eq ∧
        ((configured parcels.resolver []).compare (some []) (some [("label", .string "a")])).value =
          .ok .eq ∧
        ((configured parcels.resolver []).compare (some [("label", .string "b")])
          (some [("label", .string "a")])).value = .ok .gt) ∧
      (((configured parcels.resolver []).compare
          (some [("label", .string "a"), ("weight", .long 2)])
          (some [("label", .string "b"), ("weight", .long 1)])).value = .ok .lt ∧
        ((configured parcels.resolver []).compare
          (some [("label", .string "b"), ("weight", .long 1)])
          (some [("weight", .long 1)])).value = .ok .eq ∧
        ((configured parcels.resolver []).compare
          (some [("label", .string "a"), ("weight", .long 2)])
          (some [("weight", .long 1)])).value = .ok .gt) ∧
      ((configured parcels.resolver []).compare (some [("weight", .long 2)])
          (some [("label", .string "a"), ("weight", .long 2)])).value = .ok .eq ∧
        ((configured parcels.resolver []).compare
          (some [("label", .string "a"), ("weight", .long 2)])
          (some [("label", .string "b"), ("weight", .long 1)])).value = .ok .lt ∧
        ((configured parcels.resolver []).compare (some [("weight", .long 2)])
          (some [("label", .string "b"), ("weight", .long 1)])).value = .ok .gt := by
  decide +kernel

/-- **The order of instances is transitive where they are evenly read.** A differ over a described
type has no comparator for whole instances and none of its own for an attribute. Then of three
instances of which neither pair in a row is greater, the outer pair has an outcome, less when one of
the two was less and equal otherwise - provided that each attribute that both comparisons get to, if
it can be read from the outer two, can be read from the middle one, and can be read from all three
if it tells the middle one from a neighbour. -/
theorem compare_transitive (t : TypeDescriptor ι) (changes : List (Change ι))
    (hbase : (configured t.resolver changes).base? = none)
    (hset : (configured t.resolver changes).overrides = []) (a b c : ι)
    (hread : ∀ name, (configured t.resolver changes).Reached t.read a b c
        (configured t.resolver changes).active name →
      (configured t.resolver changes).EvenlyRead t.read a b c name)
    (o₁ o₂ : Ordering)
    (h₁ : ((configured t.resolver changes).compare (some a) (some b)).value = .ok o₁)
    (h₂ : ((configured t.resolver changes).compare (some b) (some c)).value = .ok o₂)
    (n₁ : o₁ ≠ .gt) (n₂ : o₂ ≠ .gt) :
    ((configured t.resolver changes).compare (some a) (some c)).value =
      .ok (if o₁ = .lt ∨ o₂ = .lt then .lt else .eq) := by
  have hlaw : ∀ name ∈ (configured t.resolver changes).active,
      ((configured t.resolver changes).comparatorFor name).Lawful := by
    intro name _
    rw [(upToDate_configured t.resolver changes).comparatorFor_of_overrides_eq_nil hset]
    exact Comparator.lawful_forKind _ _
  have hpairs : ∀ x y, ((configured t.resolver changes).readPairs x y).value =
      (configured t.resolver changes).active.map (pairBy t.read x y) := by
    refine value_readPairs_of_map fun x => ?_
    rw [(reflects_configured t.resolver changes).resolver_eq]
    rfl
  rw [value_compare_some hbase, hpairs] at h₁ h₂ ⊢
  exact orderOf_composes hlaw hread o₁ o₂ h₁ h₂ n₁ n₂

/-- A parcel that may not be weighed, and with nowhere to go. -/
def parkedParcel : List (String × Value) := [("label", .string "a"), ("route", .list [])]

/-- A parcel with everything, on its way. -/
def movingParcel : List (String × Value) :=
  [("label", .string "a"), ("weight", .long 2), ("route", .list [.long 1])]

/-- A parcel that may not be weighed, with a stop to come. -/
def delayedParcel : List (String × Value) :=
  [("label", .string "a"), ("route", .list [.long 1, .null])]

/-- Three parcels of which only the middle one has a weight to read. -/
theorem compare_transitive_parcels :
    (configured parcels.resolver []).base? = none ∧
      (configured parcels.resolver []).overrides = [] ∧
      (∀ name, (configured parcels.resolver []).Reached parcels.read parkedParcel movingParcel
          delayedParcel (configured parcels.resolver []).active name →
        (configured parcels.resolver []).EvenlyRead parcels.read parkedParcel movingParcel
          delayedParcel name) ∧
      ((configured parcels.resolver []).compare (some parkedParcel) (some movingParcel)).value =
        .ok .lt ∧
      ((configured parcels.resolver []).compare (some movingParcel) (some delayedParcel)).value =
        .ok .lt ∧
      ((configured parcels.resolver []).compare (some parkedParcel) (some delayedParcel)).value =
        .ok .lt := by
  have hread : ∀ name, (configured parcels.resolver []).Reached parcels.read parkedParcel
        movingParcel delayedParcel (configured parcels.resolver []).active name →
      (configured parcels.resolver []).EvenlyRead parcels.read parkedParcel movingParcel
        delayedParcel name := by
    rintro name ⟨before, after, hsplit, -⟩
    have hname : name ∈ before ++ name :: after := List.mem_append_right _ List.mem_cons_self
    have hactive : (configured parcels.resolver []).active = ["label", "weight", "route"] := rfl
    rw [← hsplit, hactive, List.mem_cons, List.mem_cons, List.mem_singleton] at hname
    rcases hname with rfl | rfl | rfl
    · exact ⟨fun _ _ => ⟨_, rfl⟩, fun _ => ⟨_, rfl⟩, fun _ => ⟨_, rfl⟩⟩
    · exact ⟨fun _ _ => ⟨_, rfl⟩, fun h => absurd (ties_none _ _) h,
        fun h => absurd (ties_none _ _) h⟩
    · exact ⟨fun _ _ => ⟨_, rfl⟩, fun _ => ⟨_, rfl⟩, fun _ => ⟨_, rfl⟩⟩
  have hfirst : ((configured parcels.resolver []).compare (some parkedParcel)
      (some movingParcel)).value = .ok .lt := by decide +kernel
  have hlast : ((configured parcels.resolver []).compare (some movingParcel)
      (some delayedParcel)).value = .ok .lt := by decide +kernel
  exact ⟨rfl, rfl, hread, hfirst, hlast, compare_transitive parcels [] rfl rfl parkedParcel
    movingParcel delayedParcel hread .lt .lt hfirst hlast nofun nofun⟩

end RecordDiff.Differ
