import RecordDiff.Proofs.AttributeComparator
import RecordDiff.Proofs.AttributeLocal

/-!
# Instances that read alike

An instance does not differ from itself, and a differ says so without reading it. Two instances from
which all the same is read should not differ either, but these are read, and every value is compared
with its like. Default comparators are reflexive, at every depth of a value, so that no entry comes
of this. What remains is that they may refuse a value because it is not of the declared kind, and
the differ fails at the first attribute where this happens.

Nothing is asked of attributes that can be read from neither instance; they are skipped.

## Main definitions

* `Alike` - two readings with the same value, or without one
* `Differ.readings` - what is read from an instance, name by name
* `Differ.Mistyped` - a reading that does not have the declared kind

## Main results

* `Differ.diff_agrees_shared` - instances that read alike are compared as one instance is with
  itself, unless a reading is mistyped
-/

namespace RecordDiff

/-! ### Readings -/

/-- Neither of the readings has a value, or both have one, of one kind and identified. In
particular it may be the same value. -/
inductive Alike : Reading → Reading → Prop
  | unreadable (e e' : AttributeError) : Alike (.error e) (.error e')
  | value {u v : Value} (kind : u.kind = v.kind) (same : u.Identified v) : Alike (.ok u) (.ok v)

theorem Alike.refl (r : Reading) : Alike r r := by
  cases r with
  | error e => exact .unreadable e e
  | ok v => exact .value rfl (.same v)

theorem Value.kind_eq_any_iff {v : Value} : v.kind = .any ↔ v = .null := by
  cases v <;> simp [Value.kind]

/-- Whether a value is refused depends on its kind. -/
theorem Kind.Refuses.of_kind_eq {kind : Kind} {u v : Value} (h : kind.Refuses u)
    (hkind : u.kind = v.kind) : kind.Refuses v := by
  obtain ⟨hne, htakes, hother⟩ := h
  rw [ne_eq, ← Value.kind_eq_any_iff, hkind, Value.kind_eq_any_iff] at hne
  exact ⟨hne, htakes, hkind ▸ hother⟩

/-- Either nothing in the list has the property, or there is a first item that has it. -/
theorem forall_not_or_first {α : Type*} (p : α → Prop) (xs : List α) :
    (∀ x ∈ xs, ¬ p x) ∨
      ∃ before x after, xs = before ++ x :: after ∧ (∀ y ∈ before, ¬ p y) ∧ p x := by
  classical
  cases hfind : xs.find? (fun x => p x) with
  | none =>
    have hnone := List.find?_eq_none.mp hfind
    exact Or.inl fun x hx hp => hnone x hx (decide_eq_true hp)
  | some x =>
    obtain ⟨hx, before, after, hsplit, hbefore⟩ := List.find?_eq_some_iff_append.mp hfind
    refine Or.inr ⟨before, x, after, hsplit, fun y hy hp => ?_, of_decide_eq_true hx⟩
    simpa [hp] using hbefore y hy

namespace Differ

variable {ι : Type} {d : Differ ι}

/-- What is read of the attributes that are compared, in their order. -/
def readings (d : Differ ι) (x : ι) : List (String × Reading) :=
  d.active.zip (d.resolver.readMany x d.active)

/-- The attribute has a value that the default comparator of its declared kind refuses. -/
def Mistyped (d : Differ ι) (r : String × Reading) : Prop :=
  ∃ v, r.2 = .ok v ∧ (d.declaredKind r.1).Refuses v

/-! ### One attribute -/

variable {name : String} {u v : Value}

theorem UpToDate.compareValues_eq (h : d.UpToDate) (hset : d.overrides = []) (name : String)
    (u v : Value) :
    d.compareValues name u v = (Comparator.forKind (d.declaredKind name) d.nullsLast).compare
      u.present? v.present? := by
  rw [compareValues, h.comparatorFor_of_overrides_eq_nil hset]

/-- Readings that are alike tie, unless they are mistyped. -/
theorem UpToDate.ties_of_alike (h : d.UpToDate) (hset : d.overrides = []) {first last : Reading}
    (halike : Alike first last) (htyped : ¬ d.Mistyped (name, first)) :
    d.Ties (name, bothValues first last) := by
  cases halike with
  | unreadable e e' => exact d.ties_none name
  | @value u v hkind hsame =>
    have hu : ¬ (d.declaredKind name).Refuses u := fun hu => htyped ⟨u, rfl, hu⟩
    have hv : ¬ (d.declaredKind name).Refuses v := fun hv => hu (hv.of_kind_eq hkind.symm)
    refine ties_some_iff.mpr ?_
    rw [h.compareValues_eq hset, Comparator.forKind_of_not_refuses hu hv,
      Comparator.fallback_eq_iff]
    exact hsame

/-- A mistyped value cannot be compared with anything. -/
theorem UpToDate.compareValues_of_refuses (h : d.UpToDate) (hset : d.overrides = [])
    (hu : (d.declaredKind name).Refuses u) (v : Value) :
    d.compareValues name u v =
      .error (.incomparable (d.declaredKind name).name u.typeName) := by
  rw [h.compareValues_eq hset, Comparator.forKind_of_refuses hu]

/-! ### All attributes -/

/-- The readings of both instances, name by name. -/
def bothReadings (d : Differ ι) (first last : ι) : List (String × Reading × Reading) :=
  d.active.zip ((d.resolver.readMany first d.active).zip (d.resolver.readMany last d.active))

/-- The pair of values that two readings of an attribute make. -/
def toPair (x : String × Reading × Reading) : String × Option (Value × Value) :=
  (x.1, bothValues x.2.1 x.2.2)

/-- The reading of the first instance. -/
def firstReading (x : String × Reading × Reading) : String × Reading := (x.1, x.2.1)

variable {first last : ι}

theorem value_readPairs_eq (d : Differ ι) (first last : ι) :
    (d.readPairs first last).value = (d.bothReadings first last).map toPair :=
  d.value_pairUp _

section Alike

variable (halike : List.Forall₂ Alike (d.resolver.readMany first d.active)
  (d.resolver.readMany last d.active))
include halike

theorem readings_eq : d.readings first = (d.bothReadings first last).map firstReading := by
  rw [readings, bothReadings]
  nth_rewrite 1 [← List.map_fst_zip halike.length_eq.le]
  rw [List.zip_map_right]
  rfl

theorem alike_of_mem {x : String × Reading × Reading} (hx : x ∈ d.bothReadings first last) :
    Alike x.2.1 x.2.2 :=
  List.forall₂_zip halike (List.of_mem_zip hx).2

/-- Either all attributes tie, or there is a first one that is mistyped. All before it tie, and it
cannot be compared. -/
theorem UpToDate.ties_or_mistyped (h : d.UpToDate) (hset : d.overrides = []) :
    ((∀ r ∈ d.readings first, ¬ d.Mistyped r) ∧ ∀ p ∈ (d.readPairs first last).value, d.Ties p) ∨
    ∃ before name v after, d.readings first = before ++ (name, .ok v) :: after ∧
      (∀ r ∈ before, ¬ d.Mistyped r) ∧ (d.declaredKind name).Refuses v ∧
      ∃ tied w rest, (d.readPairs first last).value = tied ++ (name, some (v, w)) :: rest ∧
        (∀ p ∈ tied, d.Ties p) ∧ d.compareValues name v w =
          .error (.incomparable (d.declaredKind name).name v.typeName) := by
  have hties : ∀ xs : List (String × Reading × Reading),
      (∀ x ∈ xs, x ∈ d.bothReadings first last) →
      (∀ x ∈ xs, ¬ d.Mistyped (firstReading x)) → ∀ p ∈ xs.map toPair, d.Ties p := by
    intro xs hmem htyped p hp
    obtain ⟨x, hx, rfl⟩ := List.mem_map.mp hp
    exact h.ties_of_alike hset (alike_of_mem halike (hmem x hx)) (htyped x hx)
  rw [readings_eq halike, value_readPairs_eq]
  rcases forall_not_or_first (fun x => d.Mistyped (firstReading x)) (d.bothReadings first last)
    with hnone | ⟨before, ⟨name, reading, reading'⟩, after, hsplit, hbefore, v, rfl, hrefuses⟩
  · exact Or.inl ⟨List.forall_mem_map.mpr hnone, hties _ (fun _ => id) hnone⟩
  · have hx : (name, .ok v, reading') ∈ d.bothReadings first last := by
      rw [hsplit]
      exact List.mem_append_right _ List.mem_cons_self
    have hmem : ∀ x ∈ before, x ∈ d.bothReadings first last := by
      rw [hsplit]
      exact fun x hx => List.mem_append_left _ hx
    cases alike_of_mem halike hx with
    | @value _ w hkind hsame =>
      refine Or.inr ⟨before.map firstReading, name, v, after.map firstReading, ?_,
        List.forall_mem_map.mpr hbefore, hrefuses, before.map toPair, w, after.map toPair, ?_,
        hties before hmem hbefore, h.compareValues_of_refuses hset hrefuses w⟩
      · rw [hsplit, List.map_append, List.map_cons]
        rfl
      · rw [hsplit, List.map_append, List.map_cons]
        rfl

end Alike

/-- **Instances that read alike do not differ.** A differ for which no comparator of an attribute
was set compares two instances from which it reads the same, or nothing from either. If no reading
is mistyped it says of them what it says of one instance taken twice: there are no entries, and
without a comparator for whole instances they are equal. Otherwise both comparisons fail at the
first reading that is mistyped. -/
theorem diff_agrees_shared (d : Differ ι) (hd : d.Reachable) (hset : d.overrides = [])
    (first last : ι) (halike : List.Forall₂ Alike (d.resolver.readMany first d.active)
      (d.resolver.readMany last d.active)) :
    ((∀ r ∈ d.readings first, ¬ d.Mistyped r) ∧
      (d.diff (.separate first last)).value = .ok [] ∧
      (d.diff (.separate first last)).value = (d.diff (.shared first)).value ∧
      (d.base? = none → (d.compare (some first) (some last)).value = .ok .eq ∧
        (d.comparePresent (.separate first last)).value =
          (d.comparePresent (.shared first)).value)) ∨
    ∃ before name v after, d.readings first = before ++ (name, .ok v) :: after ∧
      (∀ r ∈ before, ¬ d.Mistyped r) ∧ (d.declaredKind name).Refuses v ∧
      (d.diff (.separate first last)).value =
        .error (.comparison name (.incomparable (d.declaredKind name).name v.typeName)) ∧
      (d.base? = none → (d.compare (some first) (some last)).value =
        .error (.incomparable (d.declaredKind name).name v.typeName)) := by
  have hpresent : d.base? = none → (d.comparePresent (.separate first last)).value =
      d.orderOf (d.readPairs first last).value ∧
      (d.comparePresent (.shared first)).value = .ok .eq := by
    intro hbase
    rw [comparePresent, comparePresent, hbase]
    exact ⟨rfl, rfl⟩
  rcases hd.upToDate.ties_or_mistyped halike hset with ⟨htyped, hties⟩ |
    ⟨before, name, v, after, hsplit, hbefore, hrefuses, tied, w, rest, hpairs, hties, hcompare⟩
  · have hdiff : (d.diff (.separate first last)).value = .ok [] := by
      rw [value_diff_separate, entriesOf_eq_ok_nil_iff]
      exact hties
    refine Or.inl ⟨htyped, hdiff, hdiff, fun hbase => ⟨?_, ?_⟩⟩
    · rw [value_compare_some hbase, orderOf_eq_ok_eq_iff]
      exact hties
    · rw [(hpresent hbase).1, (hpresent hbase).2, orderOf_eq_ok_eq_iff]
      exact hties
  · refine Or.inr ⟨before, name, v, after, hsplit, hbefore, hrefuses, ?_, fun hbase => ?_⟩
    · rw [value_diff_separate, hpairs, entriesOf_append_of_ties hties, entriesOf_of_error hcompare]
    · rw [value_compare_some hbase, hpairs, orderOf_append_of_ties hties,
        orderOf_of_not_ties (by rw [hcompare]; nofun), hcompare]

/-- A route with a gap, a detour and a NaN. -/
def oddRoute (detour : Decimal) : Value :=
  .list [.null, .list [.decimal detour], .double ⟨0x7ff8000000000000⟩]

/-- A parcel that may not be weighed. -/
def routedParcel : List (String × Value) := [("label", .null), ("route", oddRoute ⟨15, 1⟩)]

/-- The same parcel with a seal, which no attribute shows, and the detour to one more place. -/
def sealedParcel : List (String × Value) :=
  [("seal", .int 1), ("route", oddRoute ⟨150, 2⟩), ("label", .null)]

/-- The parcel with a weight that cannot be compared to others, sealed. -/
def oddSealedParcel : List (String × Value) := ("seal", .int 1) :: oddParcel

/-- Two parcels that read alike, and two more with a weight that is no weight. -/
theorem diff_agrees_shared_parcels :
    (configured parcels.resolver []).Reachable ∧
      (configured parcels.resolver []).overrides = [] ∧
      List.Forall₂ Alike
        (parcels.resolver.readMany routedParcel (configured parcels.resolver []).active)
        (parcels.resolver.readMany sealedParcel (configured parcels.resolver []).active) ∧
      (∀ r ∈ (configured parcels.resolver []).readings routedParcel,
        ¬ (configured parcels.resolver []).Mistyped r) ∧
      ((configured parcels.resolver []).diff (.separate routedParcel sealedParcel)).value = .ok [] ∧
      ((configured parcels.resolver []).compare (some routedParcel) (some sealedParcel)).value =
        .ok .eq ∧
      List.Forall₂ Alike
        (parcels.resolver.readMany oddParcel (configured parcels.resolver []).active)
        (parcels.resolver.readMany oddSealedParcel (configured parcels.resolver []).active) ∧
      (configured parcels.resolver []).Mistyped ("weight", .ok (.string "1")) ∧
      ((configured parcels.resolver []).diff (.separate oddParcel oddSealedParcel)).value =
        .error (.comparison "weight" (.incomparable "long" "string")) ∧
      ∃ cause, ((configured parcels.resolver []).compare (some oddParcel)
        (some oddSealedParcel)).value = .error cause := by
  have hreachable : (configured parcels.resolver []).Reachable := ⟨_, _, rfl⟩
  have hdecimal : (Value.decimal ⟨15, 1⟩).Identified (.decimal ⟨150, 2⟩) :=
    .decimal (Decimal.compare_eq_eq_iff.mp (by decide +kernel))
  have hroute : (oddRoute ⟨15, 1⟩).Identified (oddRoute ⟨150, 2⟩) :=
    .list (.cons (.same _) (.cons (.list (.cons hdecimal .nil)) (.cons (.same _) .nil)))
  have halike : List.Forall₂ Alike
      (parcels.resolver.readMany routedParcel (configured parcels.resolver []).active)
      (parcels.resolver.readMany sealedParcel (configured parcels.resolver []).active) :=
    .cons (.refl (.ok .null)) (.cons (.unreadable _ _) (.cons (.value rfl hroute) .nil))
  have hodd : List.Forall₂ Alike
      (parcels.resolver.readMany oddParcel (configured parcels.resolver []).active)
      (parcels.resolver.readMany oddSealedParcel (configured parcels.resolver []).active) :=
    List.forall₂_same.mpr fun r _ => .refl r
  have hfine : ∀ r ∈ (configured parcels.resolver []).readings routedParcel,
      ¬ (configured parcels.resolver []).Mistyped r := by
    have hreadings : (configured parcels.resolver []).readings routedParcel =
        [("label", .ok .null), ("weight", .error (.accessDenied "weight" "missing")),
          ("route", .ok (oddRoute ⟨15, 1⟩))] := rfl
    rw [hreadings, List.forall_mem_cons, List.forall_mem_cons, List.forall_mem_singleton]
    refine ⟨?_, ?_, ?_⟩
    · rintro ⟨_, ⟨⟩, hnull, -, -⟩
      exact hnull rfl
    · rintro ⟨_, ⟨⟩, -⟩
    · rintro ⟨_, ⟨⟩, -, -, hkind⟩
      exact hkind rfl
  have hmistyped : (configured parcels.resolver []).Mistyped ("weight", .ok (.string "1")) :=
    ⟨_, rfl, nofun, id, nofun⟩
  have hdiff : ((configured parcels.resolver []).diff (.separate oddParcel oddSealedParcel)).value =
      .error (.comparison "weight" (.incomparable "long" "string")) := rfl
  have hsame : ((configured parcels.resolver []).diff (.separate routedParcel sealedParcel)).value =
        .ok [] ∧
      ((configured parcels.resolver []).compare (some routedParcel) (some sealedParcel)).value =
        .ok .eq := by
    rcases diff_agrees_shared _ hreachable rfl routedParcel sealedParcel halike with
      ⟨-, hdiff, -, hcompare⟩ | ⟨before, name, v, after, hsplit, -, hrefuses, -⟩
    · exact ⟨hdiff, (hcompare rfl).1⟩
    · have hmem : (name, .ok v) ∈ (configured parcels.resolver []).readings routedParcel := by
        rw [hsplit]
        exact List.mem_append_right _ List.mem_cons_self
      exact absurd ⟨v, rfl, hrefuses⟩ (hfine _ hmem)
  have hfails : ∃ cause, ((configured parcels.resolver []).compare (some oddParcel)
      (some oddSealedParcel)).value = .error cause := by
    rcases diff_agrees_shared _ hreachable rfl oddParcel oddSealedParcel hodd with
      ⟨hnone, -⟩ | ⟨before, name, v, after, -, -, -, -, hcompare⟩
    · exact absurd hmistyped (hnone _ (List.mem_cons_of_mem _ List.mem_cons_self))
    · exact ⟨_, hcompare rfl⟩
  exact ⟨hreachable, rfl, halike, hfine, hsame.1, hsame.2, hodd, hmistyped, hdiff, hfails⟩

end Differ

end RecordDiff
