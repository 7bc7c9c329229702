/-!
# Name filters

A filter holds two sets of names in order of first addition. A name passes when it is not excluded
and, if any name is included, it is included.

## Main definitions

* `NameFilter` - the two sets
* `NameFilter.addIncluded`, `NameFilter.addExcluded` - adding names, which also gives those that
  were new
* `NameFilter.passes`, `NameFilter.apply` - the names that pass
-/

namespace RecordDiff

/-- Adds names one after the other to a list without repetitions. The extended list comes first,
the names that were new second. -/
def addNew (set : List String) : List String → List String × List String
  | [] => (set, [])
  | name :: rest =>
    if name ∈ set then addNew set rest
    else
      let (extended, added) := addNew (set ++ [name]) rest
      (extended, name :: added)

/-- The extended list is the old one followed by the new names. -/
theorem addNew_fst (set names : List String) :
    (addNew set names).1 = set ++ (addNew set names).2 := by
  induction names generalizing set with
  | nil => simp [addNew]
  | cons name rest ih =>
    by_cases h : name ∈ set <;> simp [addNew, h, ih]

theorem mem_addNew {set names : List String} {name : String} :
    name ∈ (addNew set names).1 ↔ name ∈ set ∨ name ∈ names := by
  induction names generalizing set with
  | nil => simp [addNew]
  | cons other rest ih =>
    rw [List.mem_cons]
    by_cases h : other ∈ set
    · rw [addNew, if_pos h, ih]
      refine ⟨Or.imp_right Or.inr, ?_⟩
      rintro (hset | rfl | hrest)
      · exact Or.inl hset
      · exact Or.inl h
      · exact Or.inr hrest
    · rw [addNew, if_neg h, ih, List.mem_append, List.mem_singleton, or_assoc]

/-- Names to keep and names to leave out. -/
structure NameFilter where
  included : List String
  excluded : List String
  deriving DecidableEq, Repr, Inhabited

namespace NameFilter

/-- The filter that every name passes. -/
def empty : NameFilter := ⟨[], []⟩

/-- Includes names; those that were not included before come second. -/
def addIncluded (f : NameFilter) (names : List String) : NameFilter × List String :=
  let (included, added) := addNew f.included names
  ({ f with included }, added)

/-- Excludes names; those that were not excluded before come second. -/
def addExcluded (f : NameFilter) (names : List String) : NameFilter × List String :=
  let (excluded, added) := addNew f.excluded names
  ({ f with excluded }, added)

/-- Some name was included or excluded. -/
def hasFilters (f : NameFilter) : Bool := !f.included.isEmpty || !f.excluded.isEmpty

/-- The name is not excluded, and it is included if any name is. -/
def passes (f : NameFilter) (name : String) : Bool :=
  if name ∈ f.excluded then false
  else if f.included.isEmpty then true
  else decide (name ∈ f.included)

theorem passes_eq_true_iff {f : NameFilter} {name : String} :
    f.passes name = true ↔ name ∉ f.excluded ∧ (f.included ≠ [] → name ∈ f.included) := by
  unfold passes
  by_cases hexcluded : name ∈ f.excluded
  · simp [hexcluded]
  · cases hincluded : f.included <;> simp [hexcluded]

/-- The names that pass, in their order. -/
def apply (f : NameFilter) (names : List String) : List String := names.filter f.passes

end NameFilter

end RecordDiff
