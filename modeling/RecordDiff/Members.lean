/-!
# Named members in order

A list of names with a value each, as in a record or a JSON object. Setting a name that is already
there replaces its value and keeps its place; a new name goes to the end. A list that is built by
setting members therefore has every name once.

## Main definitions

* `Members.set`, `Members.get?`, `Members.erase` - write, read and remove by name
* `Members.ofList` - setting the members of a list one after the other
-/

namespace RecordDiff.Members

variable {α β : Type _}

/-- The names in order. -/
def names (ms : List (String × α)) : List String := ms.map (·.1)

/-- Gives `name` the value `v`: in its place when the name is there, at the end otherwise. -/
def set (name : String) (v : α) : List (String × α) → List (String × α)
  | [] => [(name, v)]
  | m :: rest => if m.1 = name then (name, v) :: rest else m :: set name v rest

/-- The value of the first member of that name. -/
def get? (name : String) : List (String × α) → Option α
  | [] => none
  | m :: rest => if m.1 = name then some m.2 else get? name rest

/-- The members without the first one of that name. -/
def erase (name : String) : List (String × α) → List (String × α)
  | [] => []
  | m :: rest => if m.1 = name then rest else m :: erase name rest

/-- The members that result from setting those of a list one after the other. -/
def ofList (ms : List (String × α)) : List (String × α) :=
  ms.foldl (fun built m => set m.1 m.2 built) []

/-! ### Names -/

@[simp] theorem names_nil : names ([] : List (String × α)) = [] := rfl

@[simp] theorem names_cons (m : String × α) (ms : List (String × α)) :
    names (m :: ms) = m.1 :: names ms := rfl

@[simp] theorem names_append (ms ns : List (String × α)) :
    names (ms ++ ns) = names ms ++ names ns := by
  simp [names]

/-- Setting a name adds it at the end, unless it is there already. -/
theorem names_set (name : String) (v : α) (ms : List (String × α)) :
    names (set name v ms) = if name ∈ names ms then names ms else names ms ++ [name] := by
  induction ms with
  | nil => simp [set]
  | cons m rest ih =>
    by_cases h : m.1 = name
    · simp [set, h]
    · have h' : ¬ name = m.1 := fun e => h e.symm
      by_cases hm : name ∈ names rest <;> simp [set, h, h', ih, hm]

theorem set_of_not_mem {name : String} {v : α} {ms : List (String × α)}
    (h : name ∉ names ms) : set name v ms = ms ++ [(name, v)] := by
  induction ms with
  | nil => rfl
  | cons m rest ih =>
    simp only [names_cons, List.mem_cons, not_or] at h
    have h' : ¬ m.1 = name := fun e => h.1 e.symm
    simp [set, h', ih h.2]

/-- Setting keeps the names distinct. -/
theorem nodup_names_set {name : String} {v : α} {ms : List (String × α)}
    (h : (names ms).Nodup) : (names (set name v ms)).Nodup := by
  rw [names_set]
  split
  · exact h
  · rename_i hn
    rw [List.nodup_append]
    refine ⟨h, by simp, fun a ha b hb e => hn ?_⟩
    rw [← List.mem_singleton.1 hb, ← e]
    exact ha

/-! ### Values -/

/-- Setting a name changes the value of that name and of no other. -/
theorem get?_set (name other : String) (v : α) (ms : List (String × α)) :
    get? other (set name v ms) = if name = other then some v else get? other ms := by
  induction ms with
  | nil => by_cases h : name = other <;> simp [set, get?, h]
  | cons m rest ih =>
    by_cases h : m.1 = name
    · by_cases ho : name = other <;> simp [set, get?, h, ho]
    · by_cases ho : name = other
      · subst ho
        simp [set, get?, h, ih]
      · simp [set, get?, h, ho, ih]

theorem get?_of_mem {ms : List (String × α)} (h : (names ms).Nodup) {m : String × α}
    (hm : m ∈ ms) : get? m.1 ms = some m.2 := by
  induction ms with
  | nil => cases hm
  | cons n rest ih =>
    rw [names_cons, List.nodup_cons] at h
    rcases List.mem_cons.mp hm with rfl | hm
    · rw [get?, if_pos rfl]
    · have hne : n.1 ≠ m.1 := by
        intro he
        exact h.1 (he ▸ List.mem_map_of_mem hm)
      rw [get?, if_neg hne, ih h.2 hm]

theorem mem_of_get? {name : String} {v : α} {ms : List (String × α)}
    (h : get? name ms = some v) : (name, v) ∈ ms := by
  induction ms with
  | nil => cases h
  | cons m rest ih =>
    by_cases hm : m.1 = name
    · rw [get?, if_pos hm] at h
      obtain rfl := Option.some.inj h
      exact List.mem_cons.mpr (Or.inl (Prod.ext hm.symm rfl))
    · rw [get?, if_neg hm] at h
      exact List.mem_cons_of_mem _ (ih h)

theorem mem_names_of_get? {name : String} {v : α} {ms : List (String × α)}
    (h : get? name ms = some v) : name ∈ names ms := List.mem_map_of_mem (mem_of_get? h)

/-- Every name has a value. -/
theorem exists_get?_of_mem_names {name : String} {ms : List (String × α)} (h : name ∈ names ms) :
    ∃ v, get? name ms = some v := by
  induction ms with
  | nil => cases h
  | cons m rest ih =>
    by_cases hm : m.1 = name
    · exact ⟨m.2, by rw [get?, if_pos hm]⟩
    · rw [get?, if_neg hm]
      exact ih ((List.mem_cons.mp h).resolve_left (Ne.symm hm))

/-- Removing a name leaves the values of all others. -/
theorem get?_erase_of_ne {name other : String} (h : name ≠ other) (ms : List (String × α)) :
    get? other (erase name ms) = get? other ms := by
  induction ms with
  | nil => rfl
  | cons m rest ih =>
    by_cases hm : m.1 = name
    · have ho : m.1 ≠ other := hm ▸ h
      rw [erase, if_pos hm, get?, if_neg ho]
    · rw [erase, if_neg hm, get?, get?, ih]

theorem names_erase (name : String) (ms : List (String × α)) :
    names (erase name ms) = (names ms).erase name := by
  induction ms with
  | nil => rfl
  | cons m rest ih =>
    by_cases hm : m.1 = name
    · rw [erase, if_pos hm, names_cons, ← hm, List.erase_cons_head]
    · have hbeq : ¬ (m.1 == name) = true := fun h => hm (eq_of_beq h)
      rw [erase, if_neg hm, names_cons, names_cons, ih, List.erase_cons_tail hbeq]

/-- A name that was there once is gone when it is removed. -/
theorem get?_erase_self {name : String} {ms : List (String × α)} (h : (names ms).Nodup) :
    get? name (erase name ms) = none := by
  cases hget : get? name (erase name ms) with
  | none => rfl
  | some v =>
    have hmem : name ∈ names (erase name ms) := mem_names_of_get? hget
    rw [names_erase] at hmem
    exact absurd hmem h.not_mem_erase

/-! ### Building from a list -/

/-- Setting distinct new names one after the other appends them. -/
theorem foldl_set_of_nodup {ms built : List (String × α)}
    (h : (names (built ++ ms)).Nodup) :
    ms.foldl (fun b m => set m.1 m.2 b) built = built ++ ms := by
  induction ms generalizing built with
  | nil => simp
  | cons m rest ih =>
    have hm : m.1 ∉ names built := by
      simp only [names_append, names_cons, List.nodup_append] at h
      intro hb
      exact h.2.2 _ hb _ (by simp) rfl
    rw [List.foldl_cons, set_of_not_mem hm, ih (by simpa using h)]
    simp

/-- Members with distinct names are built as they are. -/
theorem ofList_of_nodup {ms : List (String × α)} (h : (names ms).Nodup) : ofList ms = ms := by
  have key := @foldl_set_of_nodup α ms [] (by simpa using h)
  simpa [ofList] using key

/-- Of two members of one name the last counts. -/
theorem get?_foldl_set (name : String) (ms built : List (String × α)) :
    get? name (ms.foldl (fun b m => set m.1 m.2 b) built) =
      ((ms.reverse.find? fun m => m.1 = name).map (·.2)).or (get? name built) := by
  induction ms generalizing built with
  | nil => rfl
  | cons m rest ih =>
    rw [List.foldl_cons, ih, get?_set, List.reverse_cons, List.find?_append]
    cases rest.reverse.find? fun m => m.1 = name with
    | some later => rfl
    | none =>
      by_cases h : m.1 = name <;> simp [h]

theorem get?_ofList (name : String) (ms : List (String × α)) :
    get? name (ofList ms) = (ms.reverse.find? fun m => m.1 = name).map (·.2) := by
  rw [ofList, get?_foldl_set, get?, Option.or_none]

end RecordDiff.Members
