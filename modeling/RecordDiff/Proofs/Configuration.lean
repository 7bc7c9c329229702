import RecordDiff.Differ.Build
import RecordDiff.Proofs.AttributeOutcome
import Mathlib.Data.List.Induction

/-!
# Configured differs

A differ is configured by calls, in whatever order and batches, and each of them updates some part
of its state. Besides what it was told the differ keeps three things that follow from it: the
attributes that are compared, the default comparators and the fallback. The calls refresh these
piecemeal, some of them under a condition.

Two invariants hold after every run of calls. One says that what is kept is up to date, without
regard to how the differ came about. The other one reads the rest of the state off the list of
calls. Together they determine the differ from what was asked of it, up to the order in which its
filter and its overrides list their names.

## Main definitions

* `Change` - a call that configures a differ
* `Differ.configured`, `Differ.Reachable` - the differ after a run of calls
* `includedBy`, `excludedBy`, `latest` - what a run asks for
* `Differ.UpToDate`, `Differ.Reflects` - the two invariants
* `Recipe` - the ready-made ways to a configured differ

## Main results

* `Differ.upToDate_configured`, `Differ.reflects_configured` - the invariants hold after every run
* `Differ.active_configured`, `Differ.comparatorFor_configured` - the attributes that are compared
  and their comparators, in terms of the calls
* `Recipe.make_eq` - ready-made differs are made by runs of calls
* `Differ.configured_order_independent` - differs of which the same was asked compare alike
-/

namespace RecordDiff

variable {ι α : Type}

/-! ### Calls -/

/-- A call that configures a differ. -/
inductive Change (ι : Type) where
  | includeNames (names : List String)
  | excludeNames (names : List String)
  | setNullsLast (nullsLast : Bool)
  | setComparator (name : String) (c : Comparator Value)
  | setBase (c : Comparator ι)

namespace Change

/-- The names that the call includes. -/
def included : Change ι → List String
  | .includeNames names => names
  | _ => []

/-- The names that the call excludes. -/
def excluded : Change ι → List String
  | .excludeNames names => names
  | _ => []

/-- Where the call puts absent values, if it says so. -/
def nullsLast? : Change ι → Option Bool
  | .setNullsLast nullsLast => some nullsLast
  | _ => none

/-- The comparator that the call sets for the name, if it sets one. -/
def comparator? (name : String) : Change ι → Option (Comparator Value)
  | .setComparator other c => if other = name then some c else none
  | _ => none

/-- The comparator that the call sets for whole instances, if it sets one. -/
def base? : Change ι → Option (Comparator ι)
  | .setBase c => some c
  | _ => none

/-- The call adds to the filter. -/
def filters : Change ι → Bool
  | .includeNames _ => true
  | .excludeNames _ => true
  | _ => false

end Change

/-! ### What a run of calls asks for -/

/-- All names that were ever included. -/
def includedBy (changes : List (Change ι)) : List String := changes.flatMap Change.included

/-- All names that were ever excluded. -/
def excludedBy (changes : List (Change ι)) : List String := changes.flatMap Change.excluded

/-- What the last call says that says anything. -/
def latest (part : Change ι → Option α) (changes : List (Change ι)) : Option α :=
  changes.reverse.findSome? part

/-- Where absent values stand after the calls: first, unless told otherwise. -/
def nullsLastAfter (changes : List (Change ι)) : Bool :=
  (latest Change.nullsLast? changes).getD false

/-- The two runs ask for the same, except perhaps for whole instances: they include and exclude the
same names, set the same comparators last, and put absent values in the same place in the end. -/
structure SameRequest (changes₁ changes₂ : List (Change ι)) : Prop where
  included (name : String) : name ∈ includedBy changes₁ ↔ name ∈ includedBy changes₂
  excluded (name : String) : name ∈ excludedBy changes₁ ↔ name ∈ excludedBy changes₂
  comparator (name : String) :
    latest (Change.comparator? name) changes₁ = latest (Change.comparator? name) changes₂
  nullsLast : nullsLastAfter changes₁ = nullsLastAfter changes₂

theorem mem_includedBy_concat {changes : List (Change ι)} {change : Change ι} {name : String} :
    name ∈ includedBy (changes ++ [change]) ↔
      name ∈ includedBy changes ∨ name ∈ change.included := by
  simp only [includedBy, List.flatMap_append, List.mem_append, List.flatMap_cons, List.flatMap_nil,
    List.append_nil]

theorem mem_excludedBy_concat {changes : List (Change ι)} {change : Change ι} {name : String} :
    name ∈ excludedBy (changes ++ [change]) ↔
      name ∈ excludedBy changes ∨ name ∈ change.excluded := by
  simp only [excludedBy, List.flatMap_append, List.mem_append, List.flatMap_cons, List.flatMap_nil,
    List.append_nil]

theorem latest_concat (part : Change ι → Option α) (changes : List (Change ι))
    (change : Change ι) :
    latest part (changes ++ [change]) = (part change).or (latest part changes) := by
  rw [latest, List.reverse_append, List.reverse_singleton, List.singleton_append,
    List.findSome?_cons]
  cases part change <;> rfl

/-- Calls that say nothing may be left out. -/
theorem latest_filter {part : Change ι → Option α} {keep : Change ι → Bool}
    (h : ∀ change, keep change = false → part change = none) (changes : List (Change ι)) :
    latest part (changes.filter keep) = latest part changes := by
  induction changes using List.reverseRecOn with
  | nil => rfl
  | append_singleton changes change ih =>
    rw [List.filter_append, latest_concat]
    by_cases hkeep : keep change = true
    · rw [List.filter_cons_of_pos hkeep, List.filter_nil, latest_concat, ih]
    · rw [List.filter_cons_of_neg hkeep, List.filter_nil, List.append_nil, ih,
        h change (Bool.eq_false_iff.mpr hkeep), Option.none_or]

namespace Differ

/-! ### Running calls -/

/-- The differ after a call. -/
def after (d : Differ ι) : Change ι → Differ ι
  | .includeNames names => (d.includeNames names).value
  | .excludeNames names => (d.excludeNames names).value
  | .setNullsLast nullsLast => d.setNullsLast nullsLast
  | .setComparator name c => (d.setComparator name c).value
  | .setBase c => d.setBase c

/-- The differ over the attributes of a resolver, after the calls. -/
def configured (r : Resolver ι) (changes : List (Change ι)) : Differ ι :=
  changes.foldl after (ofResolver r).value

theorem configured_concat (r : Resolver ι) (changes : List (Change ι)) (change : Change ι) :
    configured r (changes ++ [change]) = (configured r changes).after change := by
  rw [configured, List.foldl_append]
  rfl

/-- The differ is made by some run of calls over some resolver. -/
def Reachable (d : Differ ι) : Prop := ∃ r changes, d = configured r changes

/-! ### What is kept is up to date -/

/-- What the differ keeps follows from its attributes, its filter and the place of absent values. -/
structure UpToDate (d : Differ ι) : Prop where
  active_eq : d.active = d.filter.apply d.resolvedNames
  defaults_eq : d.defaults = defaultsFor d.resolved d.nullsLast
  fallback_eq : d.fallback = .fallback d.nullsLast

theorem upToDate_ofResolver (r : Resolver ι) : (ofResolver r).value.UpToDate where
  active_eq := (List.filter_eq_self.mpr fun _ _ => rfl).symm
  defaults_eq := rfl
  fallback_eq := rfl

theorem UpToDate.after {d : Differ ι} (h : d.UpToDate) (change : Change ι) :
    (d.after change).UpToDate := by
  cases change with
  | includeNames names => exact ⟨rfl, h.defaults_eq, h.fallback_eq⟩
  | excludeNames names => exact ⟨rfl, h.defaults_eq, h.fallback_eq⟩
  | setNullsLast nullsLast =>
    -- Nothing is refreshed where the flag stays as it is, and nothing has to be.
    rw [Differ.after, setNullsLast]
    split
    · exact h
    · exact ⟨h.active_eq, rfl, rfl⟩
  | setComparator name c => exact ⟨h.active_eq, h.defaults_eq, h.fallback_eq⟩
  | setBase c => exact ⟨h.active_eq, h.defaults_eq, h.fallback_eq⟩

/-- What a differ keeps is up to date after every run of calls. -/
theorem upToDate_configured (r : Resolver ι) (changes : List (Change ι)) :
    (configured r changes).UpToDate := by
  induction changes using List.reverseRecOn with
  | nil => exact upToDate_ofResolver r
  | append_singleton changes change ih =>
    rw [configured_concat]
    exact ih.after change

theorem Reachable.upToDate {d : Differ ι} (h : d.Reachable) : d.UpToDate := by
  obtain ⟨r, changes, rfl⟩ := h
  exact upToDate_configured r changes

/-! ### The state says what was asked for -/

/-- The differ is over the attributes of the resolver and holds what the calls ask for. -/
structure Reflects (d : Differ ι) (r : Resolver ι) (changes : List (Change ι)) : Prop where
  resolver_eq : d.resolver = r
  resolved_eq : d.resolved = r.attributes
  mem_included (name : String) : name ∈ d.filter.included ↔ name ∈ includedBy changes
  mem_excluded (name : String) : name ∈ d.filter.excluded ↔ name ∈ excludedBy changes
  nullsLast_eq : d.nullsLast = nullsLastAfter changes
  override_eq (name : String) :
    Members.get? name d.overrides = latest (Change.comparator? name) changes
  base_eq : d.base? = latest Change.base? changes

theorem reflects_ofResolver (r : Resolver ι) : (ofResolver r).value.Reflects r [] where
  resolver_eq := rfl
  resolved_eq := rfl
  mem_included _ := Iff.rfl
  mem_excluded _ := Iff.rfl
  nullsLast_eq := rfl
  override_eq _ := rfl
  base_eq := rfl

/-- What a call does to the state, part by part: `d'` has what the call says where it says
something, and what `d` has elsewhere. -/
structure Applied (d : Differ ι) (change : Change ι) (d' : Differ ι) : Prop where
  resolver_eq : d'.resolver = d.resolver
  resolved_eq : d'.resolved = d.resolved
  mem_included (name : String) :
    name ∈ d'.filter.included ↔ name ∈ d.filter.included ∨ name ∈ change.included
  mem_excluded (name : String) :
    name ∈ d'.filter.excluded ↔ name ∈ d.filter.excluded ∨ name ∈ change.excluded
  nullsLast_eq : d'.nullsLast = change.nullsLast?.getD d.nullsLast
  override_eq (name : String) :
    Members.get? name d'.overrides = (change.comparator? name).or (Members.get? name d.overrides)
  base_eq : d'.base? = change.base?.or d.base?

theorem applied_after (d : Differ ι) (change : Change ι) : d.Applied change (d.after change) := by
  have hkept : ∀ (names : List String) (name : String), name ∈ names ↔ name ∈ names ∨ name ∈ [] :=
    fun _ _ => (or_iff_left List.not_mem_nil).symm
  cases change with
  | includeNames names =>
    exact ⟨rfl, rfl, fun _ => mem_addNew, hkept _, rfl, fun _ => rfl, rfl⟩
  | excludeNames names =>
    exact ⟨rfl, rfl, hkept _, fun _ => mem_addNew, rfl, fun _ => rfl, rfl⟩
  | setNullsLast nullsLast =>
    rw [Differ.after, setNullsLast]
    split
    · rename_i hsame
      exact ⟨rfl, rfl, hkept _, hkept _, hsame, fun _ => rfl, rfl⟩
    · exact ⟨rfl, rfl, hkept _, hkept _, rfl, fun _ => rfl, rfl⟩
  | setComparator name c =>
    refine ⟨rfl, rfl, hkept _, hkept _, rfl, fun other => ?_, rfl⟩
    refine (Members.get?_set name other c d.overrides).trans ?_
    rw [Change.comparator?]
    by_cases hname : name = other
    · rw [if_pos hname, if_pos hname, Option.some_or]
    · rw [if_neg hname, if_neg hname, Option.none_or]
  | setBase c => exact ⟨rfl, rfl, hkept _, hkept _, rfl, fun _ => rfl, rfl⟩

theorem Reflects.after {d : Differ ι} {r : Resolver ι} {changes : List (Change ι)}
    (h : d.Reflects r changes) (change : Change ι) :
    (d.after change).Reflects r (changes ++ [change]) := by
  have happlied := d.applied_after change
  refine ⟨happlied.resolver_eq.trans h.resolver_eq, happlied.resolved_eq.trans h.resolved_eq,
    fun name => ?_, fun name => ?_, ?_, fun name => ?_, ?_⟩
  · rw [happlied.mem_included, h.mem_included, mem_includedBy_concat]
  · rw [happlied.mem_excluded, h.mem_excluded, mem_excludedBy_concat]
  · rw [happlied.nullsLast_eq, h.nullsLast_eq, nullsLastAfter, nullsLastAfter, latest_concat]
    cases change.nullsLast? <;> rfl
  · rw [happlied.override_eq, h.override_eq, latest_concat]
  · rw [happlied.base_eq, h.base_eq, latest_concat]

/-- The state says what was asked for after every run of calls. -/
theorem reflects_configured (r : Resolver ι) (changes : List (Change ι)) :
    (configured r changes).Reflects r changes := by
  induction changes using List.reverseRecOn with
  | nil => exact reflects_ofResolver r
  | append_singleton changes change ih =>
    rw [configured_concat]
    exact ih.after change

/-! ### Attributes and comparators after a run -/

variable {r : Resolver ι} {changes : List (Change ι)}

/-- Lists of the same members are empty together. -/
theorem ne_nil_iff_of_mem_iff {xs ys : List α} (h : ∀ x, x ∈ xs ↔ x ∈ ys) : xs ≠ [] ↔ ys ≠ [] := by
  simp only [ne_eq, List.eq_nil_iff_forall_not_mem, h]

theorem passes_configured_iff {name : String} :
    (configured r changes).filter.passes name = true ↔
      name ∉ excludedBy changes ∧ (includedBy changes ≠ [] → name ∈ includedBy changes) := by
  have h := reflects_configured r changes
  rw [NameFilter.passes_eq_true_iff, h.mem_excluded, h.mem_included,
    ne_nil_iff_of_mem_iff h.mem_included]

theorem active_configured (r : Resolver ι) (changes : List (Change ι)) :
    (configured r changes).active =
      (r.attributes.map (·.name)).filter (configured r changes).filter.passes := by
  rw [(upToDate_configured r changes).active_eq, resolvedNames,
    (reflects_configured r changes).resolved_eq]
  rfl

/-- Every attribute that is compared is one of the resolver's. -/
theorem exists_attribute_of_mem_active {name : String} (h : name ∈ (configured r changes).active) :
    ∃ a ∈ r.attributes, a.name = name := by
  rw [active_configured] at h
  exact List.mem_map.mp (List.mem_of_mem_filter h)

/-- Of attributes with distinct names each has the default of its own kind. -/
theorem get?_defaultsFor {resolved : List AttributeInfo} (hnames : (resolved.map (·.name)).Nodup)
    {a : AttributeInfo} (ha : a ∈ resolved) (nullsLast : Bool) :
    Members.get? a.name (defaultsFor resolved nullsLast) = some (.forKind a.kind nullsLast) := by
  have hmembers : (Members.names (resolved.map fun a =>
      (a.name, Comparator.forKind a.kind nullsLast))).Nodup := by
    rwa [Members.names, List.map_map]
  rw [defaultsFor, Members.ofList_of_nodup hmembers]
  exact Members.get?_of_mem hmembers (List.mem_map_of_mem ha)

/-- The comparator of an attribute is the last one that was set for its name, and the default of its
kind if there is none. -/
theorem comparatorFor_configured (hnames : (r.attributes.map (·.name)).Nodup) {a : AttributeInfo}
    (ha : a ∈ r.attributes) :
    (configured r changes).comparatorFor a.name =
      (latest (Change.comparator? a.name) changes).getD
        (.forKind a.kind (nullsLastAfter changes)) := by
  have h := reflects_configured r changes
  have hdefault : Members.get? a.name (configured r changes).defaults =
      some (.forKind a.kind (nullsLastAfter changes)) := by
    rw [(upToDate_configured r changes).defaults_eq, h.resolved_eq, h.nullsLast_eq]
    exact get?_defaultsFor hnames ha _
  rw [comparatorFor, h.override_eq, hdefault]
  cases latest (Change.comparator? a.name) changes <;> rfl

/-- Two differs over one resolver that compare the same attributes by the same comparators. -/
theorem alike_of_sameRequest (hnames : (r.attributes.map (·.name)).Nodup)
    {changes₁ changes₂ : List (Change ι)} (h : SameRequest changes₁ changes₂) :
    (configured r changes₁).active = (configured r changes₂).active ∧
      ∀ name ∈ (configured r changes₁).active,
        (configured r changes₁).comparatorFor name =
          (configured r changes₂).comparatorFor name := by
  constructor
  · rw [active_configured, active_configured]
    refine List.filter_congr fun name _ => Bool.eq_iff_iff.mpr ?_
    rw [passes_configured_iff, passes_configured_iff, h.excluded, h.included,
      ne_nil_iff_of_mem_iff h.included]
  · intro name hname
    obtain ⟨a, ha, rfl⟩ := exists_attribute_of_mem_active hname
    rw [comparatorFor_configured hnames ha, comparatorFor_configured hnames ha, h.comparator,
      h.nullsLast]

end Differ

/-! ### Ready-made differs -/

/-- A ready-made way from a described type to a differ. -/
inductive Recipe (ι : Type) where
  | plain
  | withBase (base : Comparator ι)
  | excluding (excluded : List String)
  | filtered (included excluded : List String)
  | withAll (base : Comparator ι) (included excluded : List String)
  | settings (s : Settings)
  | settingsFile (path : String) (content : FileContent)

namespace Recipe

open Differ

/-- The differ that is made; settings may fail to load. -/
def make (t : TypeDescriptor ι) : Recipe ι → Except DiffError (Logged (Differ ι))
  | .plain => .ok (ofDescriptor t)
  | .withBase base => .ok (ofDescriptorWithBase t base)
  | .excluding excluded => .ok (ofDescriptorExcluding t excluded)
  | .filtered included excluded => .ok (ofDescriptorFiltered t included excluded)
  | .withAll base included excluded => .ok (ofDescriptorWith t base included excluded)
  | .settings s => .ok (ofSettings t s)
  | .settingsFile path content => ofSettingsFile t path content

/-- The calls that settings stand for. An empty list is no call. -/
def settingsChanges (s : Settings) : List (Change ι) :=
  [.setNullsLast s.nullsLast] ++ (if s.included.isEmpty then [] else [.includeNames s.included]) ++
    (if s.excluded.isEmpty then [] else [.excludeNames s.excluded])

/-- The run of calls that makes the differ. -/
def changes : Recipe ι → Except DiffError (List (Change ι))
  | .plain => .ok []
  | .withBase base => .ok [.setBase base]
  | .excluding excluded => .ok [.excludeNames excluded]
  | .filtered included excluded => .ok [.includeNames included, .excludeNames excluded]
  | .withAll base included excluded =>
    .ok [.setBase base, .includeNames included, .excludeNames excluded]
  | .settings s => .ok (settingsChanges s)
  | .settingsFile path content =>
    match Settings.load path content with
    | .ok s => .ok (settingsChanges s)
    | .error e => .error (.settings e)

theorem value_ofSettings (t : TypeDescriptor ι) (s : Settings) :
    (ofSettings t s).value = configured t.resolver (settingsChanges s) := by
  unfold ofSettings settingsChanges
  cases s.included.isEmpty <;> cases s.excluded.isEmpty <;> rfl

/-- Ready-made differs are made by runs of calls. -/
theorem make_eq (t : TypeDescriptor ι) (recipe : Recipe ι) :
    (recipe.make t).map (·.value) = recipe.changes.map (configured t.resolver) := by
  cases recipe with
  | settings s => exact congrArg Except.ok (value_ofSettings t s)
  | settingsFile path content =>
    rw [make, changes, ofSettingsFile]
    cases Settings.load path content with
    | ok s => exact congrArg Except.ok (value_ofSettings t s)
    | error e => rfl
  | _ => rfl

end Recipe

/-- A differ over a prototype is fresh; without one there is no differ. -/
theorem Differ.value_ofPrototype (typeName : String) (document : ι → Except Reason Json)
    (prototype : ι) :
    (ofPrototype typeName document prototype).map (·.value) =
      ((DocumentResolver.ofPrototype typeName document prototype).mapError .discovery).map
        fun d => configured d.resolver [] := by
  rw [ofPrototype]
  cases DocumentResolver.ofPrototype typeName document prototype <;> rfl

/-! ### Independence of order -/

namespace Differ

/-- **Configuration does not depend on the order of calls and is never stale.** After every run, the
attributes that are compared are those of the resolver, in its order, that were never excluded and,
if any name was included, were included; and each has the comparator that was last set for it, or
the default of its kind for the current place of absent values. Runs that ask for the same give the
same differences, with the same reports, whatever the comparator for whole instances; if that is the
same too, whole instances are in the same order. Ready-made differs come from such runs. -/
theorem configured_order_independent (r : Resolver ι)
    (hnames : (r.attributes.map (·.name)).Nodup) :
    (∀ changes, (configured r changes).active =
      (r.attributes.map (·.name)).filter fun name =>
        name ∉ excludedBy changes ∧ (includedBy changes ≠ [] → name ∈ includedBy changes)) ∧
    (∀ changes, ∀ a ∈ r.attributes, (configured r changes).comparatorFor a.name =
      (latest (Change.comparator? a.name) changes).getD
        (.forKind a.kind (nullsLastAfter changes))) ∧
    (∀ changes₁ changes₂, SameRequest changes₁ changes₂ →
      (∀ operands, (configured r changes₁).diff operands =
        (configured r changes₂).diff operands) ∧
      (latest Change.base? changes₁ = latest Change.base? changes₂ →
        (∀ first last, (configured r changes₁).compare first last =
          (configured r changes₂).compare first last) ∧
        ∀ operands, (configured r changes₁).comparePresent operands =
          (configured r changes₂).comparePresent operands)) ∧
    (∀ (t : TypeDescriptor ι) (recipe : Recipe ι),
      (recipe.make t).map (·.value) = recipe.changes.map (configured t.resolver)) ∧
    ∀ (typeName : String) (document : ι → Except Reason Json) (prototype : ι),
      (ofPrototype typeName document prototype).map (·.value) =
        ((DocumentResolver.ofPrototype typeName document prototype).mapError .discovery).map
          fun d => configured d.resolver [] := by
  refine ⟨fun changes => ?active, fun changes a ha => comparatorFor_configured hnames ha,
    fun changes₁ changes₂ h => ?same, fun t recipe => recipe.make_eq t, value_ofPrototype⟩
  case active =>
    rw [active_configured]
    refine List.filter_congr fun name _ => Bool.eq_iff_iff.mpr ?_
    rw [passes_configured_iff, decide_eq_true_iff]
  case same =>
    obtain ⟨hactive, hcomparator⟩ := alike_of_sameRequest hnames h
    have h₁ := reflects_configured r changes₁
    have h₂ := reflects_configured r changes₂
    have hresolver := h₁.resolver_eq.trans h₂.resolver_eq.symm
    refine ⟨diff_congr hresolver hactive hcomparator, fun hlatest => ?_⟩
    have hbase : (configured r changes₁).base? = (configured r changes₂).base? := by
      rw [h₁.base_eq, h₂.base_eq, hlatest]
    have hnulls : (configured r changes₁).nullsLast = (configured r changes₂).nullsLast := by
      rw [h₁.nullsLast_eq, h₂.nullsLast_eq, h.nullsLast]
    exact ⟨compare_congr hresolver hactive hcomparator hbase hnulls,
      comparePresent_congr hresolver hactive hcomparator hbase⟩

/-! ### Parcels -/

/-- A type whose instances are their named members. A member that is missing may not be read. -/
def ofMembers (typeName : String) (kinds : List (String × Kind)) :
    TypeDescriptor (List (String × Value)) :=
  kinds.foldl (fun t k => t.declareFallible k.1 k.2 fun members =>
    match Members.get? k.1 members with
    | some v => .ok v
    | none => .error (.accessDenied k.1 "missing")) (.empty typeName)

/-- Parcels have a label, a weight and a route. -/
def parcels : TypeDescriptor (List (String × Value)) :=
  ofMembers "Parcel" [("label", .string), ("weight", .long), ("route", .list)]

/-- Compares weights and routes of parcels, with absent values last. -/
def parcelChanges : List (Change (List (String × Value))) :=
  [.includeNames ["label", "weight", "route"], .excludeNames ["label"], .setNullsLast true]

/-- The same with more calls: names come one by one, some of them twice, and parcels are said to be
all equal as a whole. -/
def moreParcelChanges : List (Change (List (String × Value))) :=
  [.setNullsLast true, .excludeNames ["label", "label"], .includeNames ["route"],
    .setBase ⟨fun _ _ => .ok .eq⟩, .setNullsLast false, .includeNames ["weight"], .includeNames [],
    .includeNames ["label", "route"], .setNullsLast true]

theorem sameRequest_parcelChanges : SameRequest parcelChanges moreParcelChanges where
  included name := by
    simp only [includedBy, parcelChanges, moreParcelChanges, List.flatMap_cons, List.flatMap_nil,
      Change.included, List.nil_append, List.append_nil, List.mem_append, List.mem_cons,
      List.not_mem_nil, or_false]
    tauto
  excluded name := by
    simp only [excludedBy, parcelChanges, moreParcelChanges, List.flatMap_cons, List.flatMap_nil,
      Change.excluded, List.nil_append, List.append_nil, List.mem_cons, List.not_mem_nil, or_false,
      or_self]
  comparator name := rfl
  nullsLast := rfl

/-- Two runs that ask for the same of a differ over parcels. -/
theorem configured_order_independent_parcels :
    (parcels.resolver.attributes.map (·.name)).Nodup ∧
      SameRequest parcelChanges moreParcelChanges ∧
      (configured parcels.resolver moreParcelChanges).active = ["weight", "route"] ∧
      (configured parcels.resolver moreParcelChanges).comparatorFor "weight" =
        .forKind .long true ∧
      (∀ operands, (configured parcels.resolver parcelChanges).diff operands =
        (configured parcels.resolver moreParcelChanges).diff operands) ∧
      latest Change.base? parcelChanges =
        latest Change.base? (parcelChanges ++ [.includeNames []]) ∧
      ∀ first last, (configured parcels.resolver parcelChanges).compare first last =
        (configured parcels.resolver (parcelChanges ++ [.includeNames []])).compare first last := by
  have hnames : (parcels.resolver.attributes.map (·.name)).Nodup := by decide +kernel
  obtain ⟨hactive, hcomparator, hsame, -⟩ := configured_order_independent parcels.resolver hnames
  have hagain : SameRequest parcelChanges (parcelChanges ++ [.includeNames []]) :=
    ⟨fun _ => Iff.rfl, fun _ => Iff.rfl, fun _ => rfl, rfl⟩
  refine ⟨hnames, sameRequest_parcelChanges, ?_, ?_, (hsame _ _ sameRequest_parcelChanges).1, rfl,
    ((hsame _ _ hagain).2 rfl).1⟩
  · rw [hactive]
    decide +kernel
  · exact hcomparator moreParcelChanges ⟨"weight", .long⟩ (by decide +kernel)

end Differ

end RecordDiff
