import RecordDiff.Filter
import Mathlib.Data.List.Induction
import Mathlib.Data.List.Nodup

/-!
# First places and last values

Lists of names are kept without repetitions, each name at its first place: the names of a
descriptor, and the two sets of a filter. Where names come with values, the last value of a name is
the one that counts: in the fields of a record, and in a ranking. What is said of them here is in
terms of the list with the repetitions.

## Main definitions

* `LastGiven` - the value that a list of pairs gives to a key

## Main results

* `nodup_eraseDups` - the first occurrences are distinct
* `addNew_snd` - the names that are new to a set, in terms of those that are added
* `find?_reverse_eq_some_iff` - the last pair of a key is found from the end
-/

namespace RecordDiff

section FirstOccurrences

variable {α : Type*} [BEq α] [LawfulBEq α]

theorem eraseDups_concat (xs : List α) (x : α) :
    (xs ++ [x]).eraseDups = if x ∈ xs then xs.eraseDups else xs.eraseDups ++ [x] := by
  rw [List.eraseDups_append]
  by_cases hx : x ∈ xs <;> simp [List.removeAll, hx, List.eraseDups_cons]

theorem nodup_eraseDups (xs : List α) : xs.eraseDups.Nodup := by
  induction xs using List.reverseRecOn with
  | nil => exact List.nodup_nil
  | append_singleton xs x ih =>
    rw [eraseDups_concat]
    split
    · exact ih
    · rename_i hx
      exact List.nodup_append'.mpr ⟨ih, List.nodup_singleton x, by simpa using hx⟩

theorem eraseDups_filter (p : α → Bool) (xs : List α) :
    (xs.filter p).eraseDups = xs.eraseDups.filter p := by
  induction xs using List.reverseRecOn with
  | nil => rfl
  | append_singleton xs x ih =>
    rw [List.filter_append, eraseDups_concat]
    by_cases hp : p x = true
    · rw [List.filter_cons_of_pos hp, List.filter_nil, eraseDups_concat, ih]
      by_cases hx : x ∈ xs <;> simp [hx, hp]
    · rw [List.filter_cons_of_neg hp, List.filter_nil, List.append_nil, ih]
      by_cases hx : x ∈ xs <;> simp [hx, hp]

end FirstOccurrences

/-- What comes after a list adds the first occurrences of what the list lacks. -/
theorem eraseDups_append {α : Type*} [DecidableEq α] (xs ys : List α) :
    (xs ++ ys).eraseDups = xs.eraseDups ++ (ys.filter fun y => y ∉ xs).eraseDups := by
  have hnew : ys.removeAll xs = ys.filter fun y => y ∉ xs := by
    refine List.filter_congr fun y _ => ?_
    rw [List.elem_eq_mem, decide_not]
  rw [List.eraseDups_append, hnew]

/-- The names that are new to a set are the first occurrences of those that it lacks. -/
theorem addNew_snd (set names : List String) :
    (addNew set names).2 = (names.filter fun name => name ∉ set).eraseDups := by
  induction names generalizing set with
  | nil => rfl
  | cons name rest ih =>
    by_cases h : name ∈ set
    · rw [addNew, if_pos h, ih, List.filter_cons_of_neg (by simpa using h)]
    · have hrest : (rest.filter fun other => decide (other ∉ set ++ [name])) =
          (rest.filter fun other => decide (other ∉ set)).filter fun other => !other == name := by
        rw [List.filter_filter]
        refine List.filter_congr fun other _ => ?_
        by_cases hname : other = name <;> simp [hname]
      rw [addNew, if_neg h, List.filter_cons_of_pos (by simpa using h), List.eraseDups_cons]
      exact congrArg (name :: ·) ((ih _).trans (congrArg List.eraseDups hrest))

/-! ### Last values -/

section LastValues

variable {κ ν : Type*} [BEq κ] {pairs : List (κ × ν)} {key : κ} {v : ν}

/-- The last pair of the key gives it the value: no pair of the key stands after it. -/
def LastGiven (pairs : List (κ × ν)) (key : κ) (v : ν) : Prop :=
  ∃ before given after, pairs = before ++ (given, v) :: after ∧ (given == key) = true ∧
    ∀ p ∈ after, (p.1 == key) = false

/-- Looking from the end finds the last pair. -/
theorem find?_reverse_eq_some_iff :
    (pairs.reverse.find? fun p => p.1 == key).map (·.2) = some v ↔ LastGiven pairs key v := by
  constructor
  · intro h
    obtain ⟨⟨given, w⟩, hfind, rfl⟩ := Option.map_eq_some_iff.mp h
    obtain ⟨hkey, passed, left, hpairs, hpassed⟩ := List.find?_eq_some_iff_append.mp hfind
    refine ⟨left.reverse, given, passed.reverse, ?_, hkey, fun p hp => ?_⟩
    · simpa using congrArg List.reverse hpairs
    · simpa using hpassed p (List.mem_reverse.mp hp)
  · rintro ⟨before, given, after, rfl, hkey, hafter⟩
    refine Option.map_eq_some_iff.mpr ⟨(given, v), List.find?_eq_some_iff_append.mpr
      ⟨hkey, after.reverse, before.reverse, by simp, fun p hp => ?_⟩, rfl⟩
    simp [hafter p (List.mem_reverse.mp hp)]

theorem LastGiven.mem (h : LastGiven pairs key v) : ∃ p ∈ pairs, (p.1 == key) = true := by
  obtain ⟨before, given, after, rfl, hkey, -⟩ := h
  exact ⟨(given, v), by simp, hkey⟩

/-- A key has one last value. -/
theorem LastGiven.unique {w : ν} (hv : LastGiven pairs key v) (hw : LastGiven pairs key w) :
    v = w :=
  Option.some.inj ((find?_reverse_eq_some_iff.mpr hv).symm.trans (find?_reverse_eq_some_iff.mpr hw))

end LastValues

end RecordDiff
