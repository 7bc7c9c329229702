import RecordDiff.Proofs.BatchedReading
import RecordDiff.Proofs.Configuration
import Mathlib.Data.List.Nodup

/-!
# Differences are local to attributes

What an attribute contributes to a difference depends on that attribute alone: on its two values and
on its comparator. So the difference can be put together from the differences of the same differ
narrowed to one attribute each, and filters choose among the contributions without changing them.

Both statements come from one description of the difference, as a function of the attributes that
are compared (`Differ.outcome_eq`). Narrowing, excluding and filtering only change that list.

## Main definitions

* `Differ.outcome` - the difference without what is reported on the way
* `Differ.narrowed` - the differ that compares one attribute
* `joined` - outcomes one after the other, up to the first failure

## Main results

* `Differ.outcome_eq_joined` - the difference is joined from those of single attributes
* `Differ.outcome_excludeNames` - excluding attributes that cannot be read changes nothing
* `Differ.outcome_filtered` - filters choose entries
* `Differ.diff_attribute_local` - the three together, for every configured differ
-/

namespace RecordDiff

variable {ι α : Type}

/-- The entries of all outcomes one after the other, up to the first failure. -/
def joined : List (Except DiffError (List Entry)) → Except DiffError (List Entry)
  | [] => .ok []
  | .ok entries :: rest => (joined rest).map (entries ++ ·)
  | .error e :: _ => .error e

theorem joined_cons (outcome : Except DiffError (List Entry))
    (rest : List (Except DiffError (List Entry))) :
    joined (outcome :: rest) = outcome.bind fun entries => (joined rest).map (entries ++ ·) := by
  cases outcome <;> rfl

/-- Outcomes fail together by the first of them that fails. -/
theorem exists_of_joined_error {f : α → Except DiffError (List Entry)} {xs : List α} {e : DiffError}
    (h : joined (xs.map f) = .error e) :
    ∃ before x after, xs = before ++ x :: after ∧
      (∀ y ∈ before, ∃ entries, f y = .ok entries) ∧ f x = .error e := by
  induction xs with
  | nil => cases h
  | cons x xs ih =>
    rw [List.map_cons] at h
    cases hx : f x with
    | error e' =>
      rw [hx, joined] at h
      exact ⟨[], x, xs, rfl, List.forall_mem_nil _, hx.trans h⟩
    | ok entries =>
      rw [hx, joined] at h
      obtain ⟨before, y, after, rfl, hbefore, hy⟩ := ih (Differ.error_of_map_error h)
      refine ⟨x :: before, y, after, rfl, ?_, hy⟩
      exact List.forall_mem_cons.mpr ⟨⟨entries, hx⟩, hbefore⟩

/-- The calls that do not filter. -/
def unfiltered (changes : List (Change ι)) : List (Change ι) := changes.filter fun c => !c.filters

namespace Differ

variable {d : Differ ι} {read : ι → String → Reading} {first last : ι}

/-- The difference of two instances, without what is reported on the way. -/
def outcome (d : Differ ι) (first last : ι) : Except DiffError (List Entry) :=
  (d.diff (.separate first last)).value

/-- The attribute cannot be read from one of the instances. -/
def Unreadable (read : ι → String → Reading) (first last : ι) (name : String) : Prop :=
  (read first name).isOk = false ∨ (read last name).isOk = false

/-- The differ with all attributes but one excluded. -/
def narrowed (d : Differ ι) (name : String) : Differ ι :=
  d.after (.excludeNames (d.resolvedNames.filter (· ≠ name)))

/-! ### One attribute after the other -/

variable {pairs : List (String × Option (Value × Value))}

/-- A pair is dealt with as if it were the only one. -/
theorem entriesOf_cons (p : String × Option (Value × Value)) :
    d.entriesOf (p :: pairs) =
      (d.entriesOf [p]).bind fun entries => (d.entriesOf pairs).map (entries ++ ·) := by
  rcases d.ties_or p with ht | ⟨name, u, v, rfl, ⟨o, ho, hc⟩ | ⟨cause, hc⟩⟩
  · rw [entriesOf_of_ties ht, entriesOf_of_ties ht]
    change d.entriesOf pairs = (d.entriesOf pairs).map fun entries => entries
    cases d.entriesOf pairs <;> rfl
  · rw [entriesOf_of_differs ho hc, entriesOf_of_differs ho hc]
    rfl
  · rw [entriesOf_of_error hc, entriesOf_of_error hc]
    rfl

theorem entriesOf_eq_joined (pairs : List (String × Option (Value × Value))) :
    d.entriesOf pairs = joined (pairs.map fun p => d.entriesOf [p]) := by
  induction pairs with
  | nil => rfl
  | cons p pairs ih => rw [entriesOf_cons, List.map_cons, joined_cons, ih]

theorem ties_pairBy_of_unreadable {name : String} (h : Unreadable read first last name) :
    d.Ties (pairBy read first last name) := by
  have hnone : bothValues (read first name) (read last name) = none := bothValues_eq_none_iff.mpr h
  rw [pairBy, hnone]
  exact d.ties_none name

/-- A failure of one attribute names it. -/
theorem exists_of_entriesOf_pairBy {name : String} {e : DiffError}
    (h : d.entriesOf [pairBy read first last name] = .error e) :
    ∃ cause, e = .comparison name cause := by
  obtain ⟨name', u, v, cause, hmem, -, rfl⟩ := exists_of_entriesOf_error h
  have hname : name' = name := congrArg Prod.fst (List.mem_singleton.mp hmem)
  exact ⟨cause, by rw [hname]⟩

/-! ### Leaving pairs out -/

/-- Pairs that tie may be left out. -/
theorem entriesOf_filter_of_ties {keep : String × Option (Value × Value) → Bool}
    (h : ∀ p ∈ pairs, keep p = false → d.Ties p) :
    d.entriesOf (pairs.filter keep) = d.entriesOf pairs := by
  induction pairs with
  | nil => rfl
  | cons p pairs ih =>
    obtain ⟨hp, hpairs⟩ := List.forall_mem_cons.mp h
    by_cases hkeep : keep p = true
    · rw [List.filter_cons_of_pos hkeep, entriesOf_cons, ih hpairs, ← entriesOf_cons]
    · rw [List.filter_cons_of_neg hkeep, ih hpairs,
        entriesOf_of_ties (hp (Bool.eq_false_iff.mpr hkeep))]

theorem property_of_entryOf {p : String × Option (Value × Value)} {entry : Entry}
    (h : d.entryOf p = some entry) : entry.property = p.1 := by
  obtain ⟨name, _ | ⟨u, v⟩⟩ := p
  · cases h
  · rw [entryOf] at h
    split at h
    · cases h
    · cases h
      rfl

/-- Of the pairs of some names the difference has the entries of those names. -/
theorem entriesOf_filter_of_ok {keep : String → Bool} {entries : List Entry}
    (h : d.entriesOf pairs = .ok entries) :
    d.entriesOf (pairs.filter fun p => keep p.1) =
      .ok (entries.filter fun entry => keep entry.property) := by
  obtain ⟨hanswers, rfl⟩ := entriesOf_eq_ok_iff.mp h
  refine entriesOf_eq_ok_iff.mpr ⟨fun p hp => hanswers p (List.mem_of_mem_filter hp), ?_⟩
  rw [List.filterMap_filter, List.filter_filterMap]
  refine List.filterMap_congr fun p _ => ?_
  cases hentry : d.entryOf p with
  | none => simp
  | some entry => simp [Option.filter, property_of_entryOf hentry]

/-- Leaving pairs out by their names leaves the names out. -/
theorem filter_map_pairBy (keep : String → Bool) (names : List String) :
    (names.map (pairBy read first last)).filter (fun p => keep p.1) =
      (names.filter keep).map (pairBy read first last) :=
  List.filter_map

/-! ### The difference as a function of the attributes -/

/-- What a differ over the same resolver and with the same comparators finds depends on the
attributes that it compares. -/
theorem outcome_of_comparators {d' : Differ ι} (hresolver : d'.resolver = d.resolver)
    (hcomparator : ∀ name ∈ d'.active, d'.comparatorFor name = d.comparatorFor name)
    (hread : d.resolver.ReadsBy read) (hactive : d'.active.Nodup) :
    d'.outcome first last = d.entriesOf (d'.active.map (pairBy read first last)) := by
  rw [← hresolver] at hread
  rw [outcome, value_diff_separate, value_readPairs hread hactive]
  refine entriesOf_congr fun p hp => ?_
  obtain ⟨name, hname, rfl⟩ := List.mem_map.mp hp
  exact hcomparator name hname

theorem outcome_eq (hread : d.resolver.ReadsBy read) (hactive : d.active.Nodup) :
    d.outcome first last = d.entriesOf (d.active.map (pairBy read first last)) :=
  outcome_of_comparators rfl (fun _ _ => rfl) hread hactive

/-! ### Excluding attributes -/

/-- Excluding names takes them out of the attributes that are compared. -/
theorem UpToDate.active_excludeNames (h : d.UpToDate) (names : List String) :
    (d.after (.excludeNames names)).active = d.active.filter (· ∉ names) := by
  have hincluded : (d.after (.excludeNames names)).filter.included = d.filter.included := rfl
  rw [(h.after _).active_eq, h.active_eq, NameFilter.apply, NameFilter.apply, List.filter_filter]
  refine List.filter_congr fun name _ => Bool.eq_iff_iff.mpr ?_
  rw [Bool.and_eq_true, decide_eq_true_iff, NameFilter.passes_eq_true_iff,
    NameFilter.passes_eq_true_iff, (d.applied_after _).mem_excluded, hincluded, Change.excluded,
    not_or, and_right_comm, and_comm]

theorem outcome_excludeNames_eq (h : d.UpToDate) (hread : d.resolver.ReadsBy read)
    (hactive : d.active.Nodup) (names : List String) :
    (d.after (.excludeNames names)).outcome first last =
      d.entriesOf ((d.active.filter (· ∉ names)).map (pairBy read first last)) := by
  rw [← h.active_excludeNames]
  refine outcome_of_comparators rfl (fun _ _ => rfl) hread ?_
  rw [h.active_excludeNames]
  exact hactive.filter _

/-- Attributes that cannot be read may be excluded. -/
theorem outcome_excludeNames (h : d.UpToDate) (hread : d.resolver.ReadsBy read)
    (hactive : d.active.Nodup) {hidden : List String}
    (hhidden : ∀ name ∈ hidden, Unreadable read first last name) :
    (d.after (.excludeNames hidden)).outcome first last = d.outcome first last := by
  rw [outcome_excludeNames_eq h hread hactive, outcome_eq hread hactive,
    ← filter_map_pairBy (· ∉ hidden)]
  refine entriesOf_filter_of_ties fun p hp hkeep => ?_
  obtain ⟨name, -, rfl⟩ := List.mem_map.mp hp
  exact ties_pairBy_of_unreadable (hhidden name (not_not.mp (of_decide_eq_false hkeep)))

/-! ### Narrowing to one attribute -/

theorem UpToDate.active_narrowed (h : d.UpToDate) (hactive : d.active.Nodup) {name : String}
    (hname : name ∈ d.active) : (d.narrowed name).active = [name] := by
  have hone : d.active.filter (· = name) = [name] := by
    rw [List.filter_eq, List.count_eq_one_of_mem hactive hname, List.replicate_one]
  rw [narrowed, h.active_excludeNames, ← hone]
  refine List.filter_congr fun other hother => ?_
  have hresolved : other ∈ d.resolvedNames := by
    rw [h.active_eq] at hother
    exact List.mem_of_mem_filter hother
  simp [hresolved]

theorem outcome_narrowed (h : d.UpToDate) (hread : d.resolver.ReadsBy read)
    (hactive : d.active.Nodup) {name : String} (hname : name ∈ d.active) :
    (d.narrowed name).outcome first last = d.entriesOf [pairBy read first last name] := by
  rw [narrowed, outcome_excludeNames_eq h hread hactive, ← h.active_excludeNames]
  exact congrArg (fun names => d.entriesOf (names.map (pairBy read first last)))
    (h.active_narrowed hactive hname)

theorem outcome_eq_joined (h : d.UpToDate) (hread : d.resolver.ReadsBy read)
    (hactive : d.active.Nodup) (first last : ι) :
    d.outcome first last =
      joined (d.active.map fun name => (d.narrowed name).outcome first last) := by
  rw [outcome_eq hread hactive, entriesOf_eq_joined, List.map_map]
  congr 1
  exact List.map_congr_left fun name hname => (outcome_narrowed h hread hactive hname).symm

/-! ### Filters -/

variable {r : Resolver ι} {changes : List (Change ι)}

theorem latest_unfiltered {part : Change ι → Option α}
    (h : ∀ change, change.filters = true → part change = none) :
    latest part (unfiltered changes) = latest part changes := by
  refine latest_filter (fun change hchange => h change ?_) changes
  simpa using hchange

theorem nodup_active_configured (hnames : (r.attributes.map (·.name)).Nodup) :
    (configured r changes).active.Nodup := by
  rw [active_configured]
  exact hnames.filter _

theorem active_unfiltered (r : Resolver ι) (changes : List (Change ι)) :
    (configured r (unfiltered changes)).active = r.attributes.map (·.name) := by
  have hfilters : ∀ change ∈ unfiltered changes, change.included = [] ∧ change.excluded = [] := by
    intro change hchange
    have hkeep := List.of_mem_filter hchange
    cases change with
    | includeNames names => cases hkeep
    | excludeNames names => cases hkeep
    | _ => exact ⟨rfl, rfl⟩
  have hincluded : includedBy (unfiltered changes) = [] :=
    List.flatMap_eq_nil_iff.mpr fun change hchange => (hfilters change hchange).1
  have hexcluded : excludedBy (unfiltered changes) = [] :=
    List.flatMap_eq_nil_iff.mpr fun change hchange => (hfilters change hchange).2
  rw [active_configured]
  refine List.filter_eq_self.mpr fun name _ => passes_configured_iff.mpr ?_
  rw [hincluded, hexcluded]
  exact ⟨List.not_mem_nil, fun h => absurd rfl h⟩

theorem comparatorFor_unfiltered (hnames : (r.attributes.map (·.name)).Nodup) {a : AttributeInfo}
    (ha : a ∈ r.attributes) :
    (configured r (unfiltered changes)).comparatorFor a.name =
      (configured r changes).comparatorFor a.name := by
  have hcomparator : latest (Change.comparator? a.name) (unfiltered changes) =
      latest (Change.comparator? a.name) changes := by
    refine latest_unfiltered fun change hchange => ?_
    cases change with
    | setComparator name c => cases hchange
    | _ => rfl
  have hnulls : nullsLastAfter (unfiltered changes) = nullsLastAfter changes := by
    refine congrArg (Option.getD · false) (latest_unfiltered fun change hchange => ?_)
    cases change with
    | setNullsLast nullsLast => cases hchange
    | _ => rfl
  rw [comparatorFor_configured hnames ha, comparatorFor_configured hnames ha, hcomparator, hnulls]

/-- Filters choose among the entries that there are without them. -/
theorem outcome_filtered (hnames : (r.attributes.map (·.name)).Nodup) (hread : r.ReadsBy read)
    {entries : List Entry}
    (h : (configured r (unfiltered changes)).outcome first last = .ok entries) :
    (configured r changes).outcome first last =
      .ok (entries.filter fun entry => (configured r changes).filter.passes entry.property) := by
  have hresolver := (reflects_configured r changes).resolver_eq
  have hresolver' := (reflects_configured r (unfiltered changes)).resolver_eq
  have hread' : (configured r changes).resolver.ReadsBy read := by rwa [hresolver]
  have hcomparator : ∀ name ∈ (configured r (unfiltered changes)).active,
      (configured r (unfiltered changes)).comparatorFor name =
        (configured r changes).comparatorFor name := by
    intro name hname
    obtain ⟨a, ha, rfl⟩ := exists_attribute_of_mem_active hname
    exact comparatorFor_unfiltered hnames ha
  have hall : (configured r changes).entriesOf
      ((r.attributes.map (·.name)).map (pairBy read first last)) = .ok entries := by
    rw [← h, ← active_unfiltered r changes]
    refine (outcome_of_comparators (hresolver'.trans hresolver.symm) hcomparator hread' ?_).symm
    rwa [active_unfiltered]
  rw [outcome_eq hread' (nodup_active_configured hnames), active_configured, ← filter_map_pairBy]
  exact entriesOf_filter_of_ok hall

/-! ### Locality -/

/-- **A difference is local to its attributes.** The resolver has distinct names and reads name by
name. Then after every run of calls the difference of two instances is joined from those of the
differ narrowed to one attribute each, in the order of the resolver; where it fails, the first of
these that fails does so too, with an error that names its attribute. An attribute that cannot be
read contributes nothing, so any such attributes - all of them, for instance - may be excluded. And
where the same run without its filters gives entries, the filters choose those of the names that
pass. -/
theorem diff_attribute_local (r : Resolver ι) (read : ι → String → Reading)
    (hnames : (r.attributes.map (·.name)).Nodup) (hread : r.ReadsBy read)
    (changes : List (Change ι)) (first last : ι) :
    (configured r changes).active.Sublist (r.attributes.map (·.name)) ∧
    (∀ name ∈ (configured r changes).active,
      ((configured r changes).narrowed name).active = [name]) ∧
    (configured r changes).outcome first last =
      joined ((configured r changes).active.map fun name =>
        ((configured r changes).narrowed name).outcome first last) ∧
    (∀ e, (configured r changes).outcome first last = .error e →
      ∃ before name after cause, (configured r changes).active = before ++ name :: after ∧
        (∀ other ∈ before, ∃ entries,
          ((configured r changes).narrowed other).outcome first last = .ok entries) ∧
        ((configured r changes).narrowed name).outcome first last = .error e ∧
        e = .comparison name cause) ∧
    (∀ name ∈ (configured r changes).active, Unreadable read first last name →
      ((configured r changes).narrowed name).outcome first last = .ok []) ∧
    (∀ hidden, (∀ name ∈ hidden, Unreadable read first last name) →
      (configured r (changes ++ [.excludeNames hidden])).outcome first last =
        (configured r changes).outcome first last) ∧
    ∀ entries, (configured r (unfiltered changes)).outcome first last = .ok entries →
      (configured r changes).outcome first last =
        .ok (entries.filter fun entry => entry.property ∉ excludedBy changes ∧
          (includedBy changes ≠ [] → entry.property ∈ includedBy changes)) := by
  have hupToDate := upToDate_configured r changes
  have hactive : (configured r changes).active.Nodup := nodup_active_configured hnames
  have hread' : (configured r changes).resolver.ReadsBy read := by
    rwa [(reflects_configured r changes).resolver_eq]
  have halone : ∀ name ∈ (configured r changes).active,
      ((configured r changes).narrowed name).outcome first last =
        (configured r changes).entriesOf [pairBy read first last name] :=
    fun name hname => outcome_narrowed hupToDate hread' hactive hname
  have hjoined := outcome_eq_joined hupToDate hread' hactive first last
  refine ⟨?discovery, fun name hname => hupToDate.active_narrowed hactive hname, hjoined, ?fails,
    ?unreadable, ?hidden, ?filtered⟩
  case discovery =>
    rw [active_configured]
    exact List.filter_sublist
  case fails =>
    intro e he
    obtain ⟨before, name, after, hsplit, hbefore, hname⟩ :=
      exists_of_joined_error (hjoined.symm.trans he)
    have hmem : name ∈ (configured r changes).active := by
      rw [hsplit]
      exact List.mem_append_right _ List.mem_cons_self
    obtain ⟨cause, hcause⟩ := exists_of_entriesOf_pairBy ((halone name hmem).symm.trans hname)
    exact ⟨before, name, after, cause, hsplit, hbefore, hname, hcause⟩
  case unreadable =>
    intro name hname hunreadable
    rw [halone name hname, entriesOf_of_ties (ties_pairBy_of_unreadable hunreadable)]
    rfl
  case hidden =>
    intro hidden hhidden
    rw [configured_concat]
    exact outcome_excludeNames hupToDate hread' hactive hhidden
  case filtered =>
    intro entries hentries
    rw [outcome_filtered hnames hread hentries]
    refine congrArg Except.ok (List.filter_congr fun entry _ => Bool.eq_iff_iff.mpr ?_)
    rw [passes_configured_iff, decide_eq_true_iff]

/-- A parcel with everything. -/
def lightParcel : List (String × Value) :=
  [("label", .string "a"), ("weight", .long 1), ("route", .list [])]

/-- A parcel without a route to read. -/
def heavyParcel : List (String × Value) := [("label", .string "b"), ("weight", .long 2)]

/-- A parcel with a weight that cannot be compared to others. -/
def oddParcel : List (String × Value) := [("label", .string "b"), ("weight", .string "1")]

/-- Parcels that differ in label and weight, where a route is missing or the weights cannot be
compared. -/
theorem diff_attribute_local_parcels :
    (parcels.resolver.attributes.map (·.name)).Nodup ∧ parcels.resolver.ReadsBy parcels.read ∧
      "weight" ∈ (configured parcels.resolver []).active ∧
      ((configured parcels.resolver []).narrowed "weight").active = ["weight"] ∧
      (configured parcels.resolver []).outcome lightParcel oddParcel =
        .error (.comparison "weight" (.incomparable "long" "string")) ∧
      (∃ (before : List String) (name : String) (after : List String) (cause : CompareError),
        (configured parcels.resolver []).active = before ++ name :: after ∧
        ((configured parcels.resolver []).narrowed name).outcome lightParcel oddParcel =
          .error (.comparison name cause)) ∧
      "route" ∈ (configured parcels.resolver []).active ∧
      Unreadable parcels.read lightParcel heavyParcel "route" ∧
      ((configured parcels.resolver []).narrowed "route").outcome lightParcel heavyParcel = .ok [] ∧
      (configured parcels.resolver [.excludeNames ["route"]]).outcome lightParcel heavyParcel =
        (configured parcels.resolver []).outcome lightParcel heavyParcel ∧
      (configured parcels.resolver (unfiltered parcelChanges)).outcome lightParcel heavyParcel =
        .ok [⟨"label", .string "a", .string "b"⟩, ⟨"weight", .long 1, .long 2⟩] ∧
      (configured parcels.resolver parcelChanges).outcome lightParcel heavyParcel =
        .ok [⟨"weight", .long 1, .long 2⟩] := by
  have hnames : (parcels.resolver.attributes.map (·.name)).Nodup := by decide +kernel
  have hread : parcels.resolver.ReadsBy parcels.read := parcels.readsBy_resolver
  have hweight : "weight" ∈ (configured parcels.resolver []).active := by decide +kernel
  have hroute : "route" ∈ (configured parcels.resolver []).active := by decide +kernel
  have hunreadable : Unreadable parcels.read lightParcel heavyParcel "route" := Or.inr rfl
  have hodd : (configured parcels.resolver []).outcome lightParcel oddParcel =
      .error (.comparison "weight" (.incomparable "long" "string")) := rfl
  have hall : (configured parcels.resolver (unfiltered parcelChanges)).outcome lightParcel
      heavyParcel = .ok [⟨"label", .string "a", .string "b"⟩, ⟨"weight", .long 1, .long 2⟩] := rfl
  obtain ⟨-, hnarrowed, -, hfails, -, -, -⟩ :=
    diff_attribute_local parcels.resolver parcels.read hnames hread [] lightParcel oddParcel
  obtain ⟨-, -, -, -, hsilent, hhidden, -⟩ :=
    diff_attribute_local parcels.resolver parcels.read hnames hread [] lightParcel heavyParcel
  obtain ⟨-, -, -, -, -, -, hfiltered⟩ :=
    diff_attribute_local parcels.resolver parcels.read hnames hread parcelChanges lightParcel
      heavyParcel
  obtain ⟨before, name, after, cause, hsplit, -, hname, hcause⟩ := hfails _ hodd
  refine ⟨hnames, hread, hweight, hnarrowed _ hweight, hodd,
    ⟨before, name, after, cause, hsplit, hname.trans (congrArg Except.error hcause)⟩,
    hroute, hunreadable, hsilent _ hroute hunreadable,
    hhidden ["route"] (List.forall_mem_singleton.mpr hunreadable), hall, ?_⟩
  rw [hfiltered _ hall]
  rfl

end Differ

end RecordDiff
