import RecordDiff.Event
import RecordDiff.Proofs.FirstOccurrences

/-!
# Runs of filter calls

A filter is made by calls, each of which adds names to one of its two sets and returns those that
were new. A chained call hands the filter on instead, so that what was new is not told. Names may
come twice in one call, in two calls, or for both sets, and an empty set of included names means
something else than one that is not.

A run of calls is described by the names that were ever added to each set, with all repetitions.
One invariant says what the sets and the returned lists are in terms of these names, and each call
keeps it. Everything else follows from it: two runs that added the same names pass the same names,
however they were batched and in whatever order they came.

## Main definitions

* `FilterCall` - a call that adds names
* `FilterRun` - the filter that calls lead to, and the lists that they returned
* `FilterCall.namesAdded` - all names that calls add to a set
* `FilterCall.Allows` - what a run of calls makes of a name

## Main results

* `FilterRun.Reflects.after`, `FilterRun.reflects_run` - the invariant, for a call and for a run
* `FilterRun.passes_run_iff` - the names that pass, in terms of the calls
* `FilterRun.filter_of_calls` - sets, returned lists and filtered names after every run
-/

namespace RecordDiff

/-! ### Calls -/

namespace NameFilter

/-- The names in one of the two sets. -/
def names (f : NameFilter) : FilterSet → List String
  | .included => f.included
  | .excluded => f.excluded

/-- Adds names to one of the two sets; those that were new to it come second. -/
def add (f : NameFilter) : FilterSet → List String → NameFilter × List String
  | .included, names => f.addIncluded names
  | .excluded, names => f.addExcluded names

theorem names_add (f : NameFilter) (set other : FilterSet) (names : List String) :
    (f.add set names).1.names other =
      if other = set then f.names set ++ (f.add set names).2 else f.names other := by
  cases set <;> cases other
  case included.included => exact addNew_fst f.included names
  case excluded.excluded => exact addNew_fst f.excluded names
  all_goals rfl

theorem snd_add (f : NameFilter) (set : FilterSet) (names : List String) :
    (f.add set names).2 = (names.filter fun name => name ∉ f.names set).eraseDups := by
  cases set <;> exact addNew_snd _ names

end NameFilter

/-- A call that adds names to one of the two sets of a filter. -/
inductive FilterCall where
  /-- Returns the names that were new. -/
  | add (set : FilterSet) (names : List String)
  /-- Hands the filter on, and does not tell which names were new. -/
  | chain (set : FilterSet) (names : List String)

namespace FilterCall

/-- The set that the call is about. -/
def set : FilterCall → FilterSet
  | add set _ => set
  | chain set _ => set

/-- The names that the call adds. -/
def names : FilterCall → List String
  | add _ names => names
  | chain _ names => names

/-- The filter after the call, and what the call returns besides. -/
def run (f : NameFilter) : FilterCall → NameFilter × Option (List String)
  | add set names => ((f.add set names).1, some (f.add set names).2)
  | chain set names => ((f.add set names).1, none)

/-- The call that adds the same names and returns those that were new. -/
def returning (call : FilterCall) : FilterCall := add call.set call.names

/-- All names that the calls add to a set, one call after the other. -/
def namesAdded (set : FilterSet) (calls : List FilterCall) : List String :=
  calls.flatMap fun call => if call.set = set then call.names else []

/-- The name is not excluded by the calls, and if they include any name they include this one. -/
def Allows (calls : List FilterCall) (name : String) : Prop :=
  name ∉ namesAdded .excluded calls ∧
    (namesAdded .included calls ≠ [] → name ∈ namesAdded .included calls)

instance (calls : List FilterCall) (name : String) : Decidable (Allows calls name) :=
  inferInstanceAs (Decidable (_ ∧ _))

theorem namesAdded_append (set : FilterSet) (calls more : List FilterCall) :
    namesAdded set (calls ++ more) = namesAdded set calls ++ namesAdded set more :=
  List.flatMap_append

theorem namesAdded_concat (set : FilterSet) (calls : List FilterCall) (call : FilterCall) :
    namesAdded set (calls ++ [call]) =
      namesAdded set calls ++ if call.set = set then call.names else [] := by
  rw [namesAdded_append]
  exact congrArg (namesAdded set calls ++ ·) (List.append_nil _)

end FilterCall

/-! ### Runs -/

open FilterCall

/-- The filter that calls lead to, and the lists that those on each set returned, in order. -/
structure FilterRun where
  filter : NameFilter
  returned : FilterSet → List (List String)

namespace FilterRun

/-- Nothing was called yet. -/
def start : FilterRun := ⟨.empty, fun _ => []⟩

/-- One more call. -/
def after (r : FilterRun) (call : FilterCall) : FilterRun where
  filter := (call.run r.filter).1
  returned set :=
    if set = call.set then r.returned set ++ (call.run r.filter).2.toList else r.returned set

theorem filter_after (r : FilterRun) (call : FilterCall) :
    (r.after call).filter = (r.filter.add call.set call.names).1 := by
  cases call <;> rfl

theorem returned_after (r : FilterRun) (call : FilterCall) (set : FilterSet) :
    (r.after call).returned set =
      if set = call.set then r.returned set ++ (call.run r.filter).2.toList
      else r.returned set := rfl

/-- The calls one after the other. -/
def run (calls : List FilterCall) : FilterRun := calls.foldl after start

theorem run_concat (calls : List FilterCall) (call : FilterCall) :
    run (calls ++ [call]) = (run calls).after call := by
  rw [run, List.foldl_append]
  rfl

/-- The sets and the returned lists are those that the calls ask for. -/
structure Reflects (r : FilterRun) (calls : List FilterCall) : Prop where
  /-- Each set holds the names that were added to it, in order of first addition. -/
  names_eq (set : FilterSet) : r.filter.names set = (namesAdded set calls).eraseDups
  /-- What was returned makes up the set, unless a call on it was chained. -/
  flatten_returned (set : FilterSet) (h : ∀ names, chain set names ∉ calls) :
    (r.returned set).flatten = r.filter.names set

/-- The names that are new to a set are those that no call added to it. -/
theorem Reflects.snd_add {r : FilterRun} {calls : List FilterCall} (h : r.Reflects calls)
    (set : FilterSet) (names : List String) :
    (r.filter.add set names).2 =
      (names.filter fun name => name ∉ namesAdded set calls).eraseDups := by
  rw [NameFilter.snd_add, h.names_eq]
  simp only [List.mem_eraseDups]

theorem reflects_start : start.Reflects [] where
  names_eq set := by cases set <;> rfl
  flatten_returned set _ := by cases set <;> rfl

theorem Reflects.after {r : FilterRun} {calls : List FilterCall} (h : r.Reflects calls)
    (call : FilterCall) : (r.after call).Reflects (calls ++ [call]) where
  names_eq set := by
    rw [filter_after, NameFilter.names_add, namesAdded_concat]
    by_cases hset : set = call.set
    · rw [if_pos hset, if_pos hset.symm, hset, h.snd_add, h.names_eq, eraseDups_append]
    · rw [if_neg hset, if_neg (Ne.symm hset), h.names_eq, List.append_nil]
  flatten_returned set hchain := by
    have hreturned : (r.returned set).flatten = r.filter.names set :=
      h.flatten_returned set fun names hmem => hchain names (List.mem_append_left _ hmem)
    rw [filter_after, returned_after, NameFilter.names_add]
    by_cases hset : set = call.set
    · cases call with
      | add set' names =>
        rw [if_pos hset, if_pos hset, List.flatten_append, hreturned, hset]
        exact congrArg (r.filter.names _ ++ ·) (List.append_nil _)
      | chain set' names =>
        -- A chained call on the set keeps its list to itself, and there is none.
        obtain rfl : set = set' := hset
        exact absurd (List.mem_append_right _ List.mem_cons_self) (hchain names)
    · rw [if_neg hset, if_neg hset, hreturned]

/-- Sets and returned lists are what the calls ask for after every run. -/
theorem reflects_run (calls : List FilterCall) : (run calls).Reflects calls := by
  -- The last call comes off: what a call finds new depends on all calls before it.
  induction calls using List.reverseRecOn with
  | nil => exact reflects_start
  | append_singleton calls call ih =>
    rw [run_concat]
    exact ih.after call

/-- Calls that return their names lead to the same filter as chained ones. -/
theorem filter_run_returning (calls : List FilterCall) :
    (run (calls.map returning)).filter = (run calls).filter := by
  induction calls using List.reverseRecOn with
  | nil => rfl
  | append_singleton calls call ih =>
    rw [List.map_append, List.map_singleton, run_concat, run_concat, filter_after, filter_after, ih]
    rfl

/-! ### The names that pass -/

theorem mem_names_run (calls : List FilterCall) (set : FilterSet) (name : String) :
    name ∈ (run calls).filter.names set ↔ name ∈ namesAdded set calls := by
  rw [(reflects_run calls).names_eq, List.mem_eraseDups]

theorem names_run_eq_nil_iff (calls : List FilterCall) (set : FilterSet) :
    (run calls).filter.names set = [] ↔ namesAdded set calls = [] := by
  simp only [List.eq_nil_iff_forall_not_mem, mem_names_run]

theorem namesAdded_eq_nil_iff {calls : List FilterCall} {set : FilterSet} :
    namesAdded set calls = [] ↔ ∀ call ∈ calls, call.set = set → call.names = [] := by
  simp only [namesAdded, List.flatMap_eq_nil_iff, ite_eq_right_iff]

theorem passes_run_iff {calls : List FilterCall} {name : String} :
    (run calls).filter.passes name = true ↔ Allows calls name := by
  rw [NameFilter.passes_eq_true_iff, Allows]
  have hincluded := mem_names_run calls .included name
  have hempty := names_run_eq_nil_iff calls .included
  exact and_congr (not_congr (mem_names_run calls .excluded name))
    (imp_congr (not_congr hempty) hincluded)

theorem apply_run (calls : List FilterCall) (resolved : List String) :
    (run calls).filter.apply resolved = resolved.filter fun name => Allows calls name := by
  refine List.filter_congr fun name _ => Bool.eq_iff_iff.mpr ?_
  rw [passes_run_iff, decide_eq_true_iff]

theorem hasFilters_run_eq_false_iff {calls : List FilterCall} :
    (run calls).filter.hasFilters = false ↔ ∀ call ∈ calls, call.names = [] := by
  have hsets : (run calls).filter.hasFilters = false ↔
      ∀ set, (run calls).filter.names set = [] := by
    rw [NameFilter.hasFilters, Bool.or_eq_false_iff, Bool.not_eq_false', Bool.not_eq_false',
      List.isEmpty_iff, List.isEmpty_iff]
    refine ⟨fun h set => ?_, fun h => ⟨h .included, h .excluded⟩⟩
    cases set with
    | included => exact h.1
    | excluded => exact h.2
  simp only [hsets, names_run_eq_nil_iff, namesAdded_eq_nil_iff]
  exact ⟨fun h call hcall => h call.set call hcall rfl, fun h set call hcall _ => h call hcall⟩

/-- Runs that added the same names allow the same names. -/
theorem allows_congr {calls others : List FilterCall}
    (h : ∀ set name, name ∈ namesAdded set calls ↔ name ∈ namesAdded set others) (name : String) :
    Allows calls name ↔ Allows others name := by
  have hempty : namesAdded .included calls = [] ↔ namesAdded .included others = [] := by
    simp only [List.eq_nil_iff_forall_not_mem, h]
  rw [Allows, Allows, h, h]
  exact and_congr Iff.rfl (imp_congr (not_congr hempty) Iff.rfl)

/-- What is allowed after further exclusions was allowed before. -/
theorem allows_of_allows_append {calls more : List FilterCall}
    (hmore : ∀ call ∈ more, call.set = .excluded) {name : String}
    (h : Allows (calls ++ more) name) : Allows calls name := by
  have hincluded : namesAdded .included more = [] := by
    refine namesAdded_eq_nil_iff.mpr fun call hcall hset => ?_
    exact nomatch hset.symm.trans (hmore call hcall)
  rw [Allows, namesAdded_append, namesAdded_append, hincluded, List.append_nil] at h
  exact ⟨fun hname => h.1 (List.mem_append_left _ hname), h.2⟩

/-- **What a run of filter calls comes to.** After every run, each set holds the names that were
ever added to it, each once and in order of first addition. A call returns just the names that no
call before it added to the set, unless it is chained, and so the returned lists of one set make it
up, where chained calls count with the lists that they keep to themselves. The filter is without any
names exactly if no call added one. It keeps those names, with their order and their repetitions,
that were not excluded and, if any name was included, were included. Filtering twice is filtering
once; runs that added the same names filter alike; and further exclusions only take names away. -/
theorem filter_of_calls (calls : List FilterCall) :
    (∀ set, (run calls).filter.names set = (namesAdded set calls).eraseDups ∧
      ((run calls).filter.names set).Nodup) ∧
    (∀ set names, ((add set names).run (run calls).filter).2 =
        some (names.filter fun name => name ∉ namesAdded set calls).eraseDups ∧
      ((chain set names).run (run calls).filter).1 = ((add set names).run (run calls).filter).1) ∧
    (∀ set, (∀ names, chain set names ∉ calls) →
      ((run calls).returned set).flatten = (run calls).filter.names set) ∧
    (∀ set, ((run (calls.map returning)).returned set).flatten =
      (run calls).filter.names set) ∧
    ((run calls).filter.hasFilters = false ↔ ∀ call ∈ calls, call.names = []) ∧
    (∀ resolved, (run calls).filter.apply resolved =
      resolved.filter fun name => Allows calls name) ∧
    (∀ resolved, (run calls).filter.apply ((run calls).filter.apply resolved) =
      (run calls).filter.apply resolved) ∧
    (∀ others, (∀ set name, name ∈ namesAdded set calls ↔ name ∈ namesAdded set others) →
      ∀ resolved, (run calls).filter.apply resolved = (run others).filter.apply resolved) ∧
    ∀ more, (∀ call ∈ more, call.set = .excluded) →
      ∀ resolved, ((run (calls ++ more)).filter.apply resolved).Sublist
        ((run calls).filter.apply resolved) := by
  have hrun := reflects_run calls
  refine ⟨fun set => ⟨hrun.names_eq set, ?nodup⟩, fun set names => ⟨?new, rfl⟩,
    hrun.flatten_returned, fun set => ?returned, hasFilters_run_eq_false_iff, apply_run calls,
    fun resolved => ?idem, fun others h resolved => ?same, fun more hmore resolved => ?fewer⟩
  case nodup =>
    rw [hrun.names_eq]
    exact nodup_eraseDups _
  case new => exact congrArg some (hrun.snd_add set names)
  case returned =>
    have hchain : ∀ names, chain set names ∉ calls.map returning := by
      intro names hmem
      obtain ⟨call, -, h⟩ := List.mem_map.mp hmem
      cases h
    rw [← filter_run_returning]
    exact (reflects_run _).flatten_returned set hchain
  case idem => rw [NameFilter.apply, NameFilter.apply, List.filter_filter]; simp only [Bool.and_self]
  case same =>
    rw [apply_run, apply_run]
    exact List.filter_congr fun name _ => decide_eq_decide.mpr (allows_congr h name)
  case fewer =>
    rw [apply_run, apply_run]
    refine List.monotone_filter_right resolved fun name h => ?_
    exact decide_eq_true (allows_of_allows_append hmore (of_decide_eq_true h))

/-- Names that come twice in a call, in two calls and for both sets. -/
def labelCalls : List FilterCall :=
  [add .included ["label", "weight", "label"], chain .excluded ["weight"],
    add .included ["weight", "route"], add .excluded ["weight", "owner"]]

/-- The same names in other calls. -/
def otherLabelCalls : List FilterCall :=
  [chain .excluded ["owner"], chain .included ["route", "label"], add .excluded ["weight"],
    chain .included ["weight"]]

/-- The returned lists make up the included names, which were not chained; the two runs filter
alike; and a further exclusion takes a name away. -/
theorem filter_of_calls_labels :
    (∀ names, chain .included names ∉ labelCalls) ∧
    (run labelCalls).returned .included = [["label", "weight"], ["route"]] ∧
    ((run labelCalls).returned .included).flatten = (run labelCalls).filter.names .included ∧
    (run labelCalls).filter.names .included = ["label", "weight", "route"] ∧
    (∀ set name, name ∈ namesAdded set labelCalls ↔ name ∈ namesAdded set otherLabelCalls) ∧
    (run otherLabelCalls).filter.apply ["route", "weight", "label", "route", "id"] =
      ["route", "label", "route"] ∧
    (∀ call ∈ [add .excluded ["route"]], call.set = .excluded) ∧
    ((run (labelCalls ++ [add .excluded ["route"]])).filter.apply ["route", "label"]).Sublist
      ((run labelCalls).filter.apply ["route", "label"]) := by
  have hchain : ∀ names, chain .included names ∉ labelCalls := by
    intro names hmem
    simp only [labelCalls, List.mem_cons, reduceCtorEq, chain.injEq, false_and, List.not_mem_nil,
      or_false] at hmem
  have hsame : ∀ set name,
      name ∈ namesAdded set labelCalls ↔ name ∈ namesAdded set otherLabelCalls := by
    intro set name
    cases set <;> simp [namesAdded, labelCalls, otherLabelCalls, FilterCall.set, FilterCall.names]
    all_goals tauto
  have hmore : ∀ call ∈ [add .excluded ["route"]], call.set = .excluded := by
    intro call hcall
    rw [List.mem_singleton.mp hcall]
    rfl
  obtain ⟨hnames, -, hreturned, -, -, -, -, hothers, hfewer⟩ := filter_of_calls labelCalls
  refine ⟨hchain, by decide, hreturned .included hchain, ?_, hsame, ?_, hmore, hfewer _ hmore _⟩
  · rw [(hnames .included).1]
    decide
  · rw [← hothers otherLabelCalls hsame]
    decide

end FilterRun

end RecordDiff
