import RecordDiff.Differ.Compare
import Mathlib.Data.List.Basic

/-!
# What the attributes say

Two loops go over the values that the attributes have in two instances. One collects an entry for
every attribute that differs, the other one stops at the first of them. Both skip an attribute that
cannot be read, and both end at an attribute that cannot be compared.

An attribute *ties* when it is skipped or its values are equal. Everything here is said with ties:
neither loop sees a tie, and at the first attribute that is none both of them act on the same
outcome of its comparator.

## Main definitions

* `Differ.bothValues` - the two values of an attribute, unless a reading failed
* `Differ.Ties`, `Differ.Answers` - an attribute does not tell the instances apart; it can be
  compared
* `Differ.entryOf` - the entry of an attribute that differs

## Main results

* `Differ.entriesOf_eq_ok_iff` - when there is a difference, and what its entries are
* `Differ.orderOf_decided` - an outcome other than equality is that of the first attribute that does
  not tie
* `Differ.diff_congr`, `Differ.compare_congr` - what a comparison of instances depends on
-/

namespace RecordDiff.Differ

variable {ι : Type*} {d d' : Differ ι}

/-! ### Pairs of values -/

/-- Both values of an attribute, unless it cannot be read from one of the instances. -/
def bothValues (first last : Reading) : Option (Value × Value) := (pairReadings first last).toOption

theorem bothValues_eq_none_iff {first last : Reading} :
    bothValues first last = none ↔ first.isOk = false ∨ last.isOk = false := by
  cases first <;> cases last <;> simp [bothValues, pairReadings, Except.toOption, Except.toBool]

theorem bothValues_eq_some_iff {first last : Reading} {u v : Value} :
    bothValues first last = some (u, v) ↔ first = .ok u ∧ last = .ok v := by
  cases first <;> cases last <;> simp [bothValues, pairReadings, Except.toOption]

theorem value_readPair (d : Differ ι) (name : String) (first last : Reading) :
    (d.readPair name first last).value = bothValues first last := by
  unfold readPair bothValues
  cases pairReadings first last <;> rfl

theorem value_pairUp (d : Differ ι) (readings : List (String × Reading × Reading)) :
    (d.pairUp readings).value = readings.map fun x => (x.1, bothValues x.2.1 x.2.2) := by
  induction readings with
  | nil => rfl
  | cons x rest ih =>
    obtain ⟨name, first, last⟩ := x
    rw [List.map_cons, ← ih, ← value_readPair d name first last]
    rfl

/-- The pairs stand in the order of the attributes that are compared, from the first one on. -/
theorem getElem?_active_of_readPairs {first last : ι} {i : ℕ}
    {p : String × Option (Value × Value)} (h : (d.readPairs first last).value[i]? = some p) :
    d.active[i]? = some p.1 := by
  unfold readPairs at h
  rw [value_pairUp, List.getElem?_map, Option.map_eq_some_iff] at h
  obtain ⟨x, hx, rfl⟩ := h
  rw [List.getElem?_zip_eq_some] at hx
  exact hx.1

theorem mem_active_of_mem_readPairs {first last : ι} {p : String × Option (Value × Value)}
    (h : p ∈ (d.readPairs first last).value) : p.1 ∈ d.active := by
  obtain ⟨i, hi⟩ := List.mem_iff_getElem?.mp h
  exact List.mem_iff_getElem?.mpr ⟨i, getElem?_active_of_readPairs hi⟩

/-- Two instances are compared by their pairs, and what is reported meanwhile does not matter. -/
theorem value_diff_separate (d : Differ ι) (first last : ι) :
    (d.diff (.separate first last)).value = d.entriesOf (d.readPairs first last).value := rfl

theorem value_compare_some (h : d.base? = none) (first last : ι) :
    (d.compare (some first) (some last)).value = d.orderOf (d.readPairs first last).value := by
  unfold compare
  rw [h]
  rfl

/-! ### Ties -/

/-- The attribute does not tell the instances apart: its comparator calls the values equal, or they
are not there. -/
def Ties (d : Differ ι) (p : String × Option (Value × Value)) : Prop :=
  ∀ u v, p.2 = some (u, v) → d.compareValues p.1 u v = .ok .eq

/-- The comparator of the attribute has an outcome for the values, if they are there. -/
def Answers (d : Differ ι) (p : String × Option (Value × Value)) : Prop :=
  ∀ u v, p.2 = some (u, v) → ∃ o, d.compareValues p.1 u v = .ok o

/-- The entry of the attribute, unless it ties. -/
def entryOf (d : Differ ι) : String × Option (Value × Value) → Option Entry
  | (_, none) => none
  | (name, some (first, last)) =>
    match d.compareValues name first last with
    | .ok .eq => none
    | _ => some ⟨name, first, last⟩

variable {p : String × Option (Value × Value)}
  {pairs before after : List (String × Option (Value × Value))}
  {name : String} {u v : Value} {o : Ordering} {cause : CompareError}

theorem ties_none (d : Differ ι) (name : String) : d.Ties (name, none) := nofun

theorem Ties.answers (h : d.Ties p) : d.Answers p := fun u v huv => ⟨.eq, h u v huv⟩

theorem ties_some_iff : d.Ties (name, some (u, v)) ↔ d.compareValues name u v = .ok .eq := by
  refine ⟨fun h => h u v rfl, fun h => ?_⟩
  rintro _ _ ⟨⟩
  exact h

theorem answers_some_iff :
    d.Answers (name, some (u, v)) ↔ ∃ o, d.compareValues name u v = .ok o := by
  refine ⟨fun h => h u v rfl, fun h => ?_⟩
  rintro _ _ ⟨⟩
  exact h

/-- An attribute ties, or it differs, or it cannot be compared. -/
theorem ties_or (d : Differ ι) (p : String × Option (Value × Value)) :
    d.Ties p ∨ ∃ name u v, p = (name, some (u, v)) ∧
      ((∃ o, o ≠ .eq ∧ d.compareValues name u v = .ok o) ∨
        ∃ e, d.compareValues name u v = .error e) := by
  obtain ⟨name, _ | ⟨u, v⟩⟩ := p
  · exact Or.inl (d.ties_none name)
  · cases h : d.compareValues name u v with
    | error e => exact Or.inr ⟨name, u, v, rfl, Or.inr ⟨e, h⟩⟩
    | ok o =>
      by_cases ho : o = .eq
      · subst ho
        exact Or.inl (ties_some_iff.mpr h)
      · exact Or.inr ⟨name, u, v, rfl, Or.inl ⟨o, ho, h⟩⟩

theorem entryOf_of_ties (h : d.Ties p) : d.entryOf p = none := by
  obtain ⟨name, _ | ⟨u, v⟩⟩ := p
  · rfl
  · rw [entryOf, ties_some_iff.mp h]

theorem entryOf_of_differs (ho : o ≠ .eq) (h : d.compareValues name u v = .ok o) :
    d.entryOf (name, some (u, v)) = some ⟨name, u, v⟩ := by
  rw [entryOf, h]
  cases o with
  | eq => exact absurd rfl ho
  | lt => rfl
  | gt => rfl

/-! ### Collecting the entries -/

/-- Applying a function to a result makes no errors. -/
theorem error_of_map_error {ε α β : Type*} {f : α → β} {x : Except ε α} {e : ε}
    (h : x.map f = .error e) : x = .error e := by
  cases x with
  | ok a => cases h
  | error e' => exact congrArg Except.error (Except.error.inj h)

theorem entriesOf_of_ties (h : d.Ties p) : d.entriesOf (p :: pairs) = d.entriesOf pairs := by
  obtain ⟨name, _ | ⟨u, v⟩⟩ := p
  · rfl
  · rw [entriesOf, ties_some_iff.mp h]

theorem entriesOf_of_differs (ho : o ≠ .eq) (h : d.compareValues name u v = .ok o) :
    d.entriesOf ((name, some (u, v)) :: pairs) =
      (d.entriesOf pairs).map (⟨name, u, v⟩ :: ·) := by
  rw [entriesOf, h]
  cases o with
  | eq => exact absurd rfl ho
  | lt => rfl
  | gt => rfl

theorem entriesOf_of_error (h : d.compareValues name u v = .error cause) :
    d.entriesOf ((name, some (u, v)) :: pairs) = .error (.comparison name cause) := by
  rw [entriesOf, h]

theorem entriesOf_append_of_ties (h : ∀ p ∈ before, d.Ties p) :
    d.entriesOf (before ++ after) = d.entriesOf after := by
  induction before with
  | nil => rfl
  | cons p before ih =>
    rw [List.cons_append, entriesOf_of_ties (h p List.mem_cons_self)]
    exact ih fun q hq => h q (List.mem_cons_of_mem _ hq)

/-- A difference that fails does so at an attribute that cannot be compared: the error names it and
carries that of its comparator. -/
theorem exists_of_entriesOf_error {e : DiffError} (h : d.entriesOf pairs = .error e) :
    ∃ name u v cause, (name, some (u, v)) ∈ pairs ∧
      d.compareValues name u v = .error cause ∧ e = .comparison name cause := by
  induction pairs with
  | nil => cases h
  | cons p pairs ih =>
    have hlater : d.entriesOf pairs = .error e → ∃ name u v cause,
        (name, some (u, v)) ∈ p :: pairs ∧
          d.compareValues name u v = .error cause ∧ e = .comparison name cause := by
      intro h
      obtain ⟨name, u, v, cause, hmem, hcause⟩ := ih h
      exact ⟨name, u, v, cause, List.mem_cons_of_mem _ hmem, hcause⟩
    rcases d.ties_or p with ht | ⟨name, u, v, rfl, ⟨o, ho, hc⟩ | ⟨cause, hc⟩⟩
    · rw [entriesOf_of_ties ht] at h
      exact hlater h
    · rw [entriesOf_of_differs ho hc] at h
      exact hlater (error_of_map_error h)
    · rw [entriesOf_of_error hc] at h
      exact ⟨name, u, v, cause, List.mem_cons_self, hc, (Except.error.inj h).symm⟩

/-- There is a difference exactly when every attribute that can be read can be compared. Its entries
are those of the attributes that do not tie, in order. -/
theorem entriesOf_eq_ok_iff {entries : List Entry} :
    d.entriesOf pairs = .ok entries ↔
      (∀ p ∈ pairs, d.Answers p) ∧ pairs.filterMap d.entryOf = entries := by
  induction pairs generalizing entries with
  | nil => simp [entriesOf]
  | cons p pairs ih =>
    rw [List.forall_mem_cons]
    rcases d.ties_or p with ht | ⟨name, u, v, rfl, ⟨o, ho, hc⟩ | ⟨cause, hc⟩⟩
    · rw [entriesOf_of_ties ht, ih, List.filterMap_cons_none (entryOf_of_ties ht)]
      simp only [ht.answers, true_and]
    · have hanswers : d.Answers (name, some (u, v)) := answers_some_iff.mpr ⟨o, hc⟩
      rw [entriesOf_of_differs ho hc, List.filterMap_cons_some (entryOf_of_differs ho hc)]
      simp only [hanswers, true_and]
      cases hrest : d.entriesOf pairs with
      | ok rest =>
        obtain ⟨hall, rfl⟩ := ih.mp hrest
        simp only [Except.map, Except.ok.injEq]
        exact ⟨fun h => ⟨hall, h⟩, fun h => h.2⟩
      | error e =>
        simp only [Except.map, reduceCtorEq, false_iff]
        rintro ⟨hall, -⟩
        exact nomatch hrest.symm.trans (ih.mpr ⟨hall, rfl⟩)
    · rw [entriesOf_of_error hc]
      simp only [answers_some_iff, hc, reduceCtorEq, exists_const, false_and]

/-- Nothing differs exactly when every attribute ties. -/
theorem entriesOf_eq_ok_nil_iff : d.entriesOf pairs = .ok [] ↔ ∀ p ∈ pairs, d.Ties p := by
  induction pairs with
  | nil => simp [entriesOf]
  | cons p pairs ih =>
    rw [List.forall_mem_cons]
    rcases d.ties_or p with ht | ⟨name, u, v, rfl, ⟨o, ho, hc⟩ | ⟨cause, hc⟩⟩
    · rw [entriesOf_of_ties ht, ih]
      simp only [ht, true_and]
    · rw [entriesOf_of_differs ho hc, ties_some_iff, hc]
      cases d.entriesOf pairs <;> simp [Except.map, ho]
    · rw [entriesOf_of_error hc, ties_some_iff, hc]
      simp

/-! ### The first attribute that decides -/

theorem orderOf_of_ties (h : d.Ties p) : d.orderOf (p :: pairs) = d.orderOf pairs := by
  obtain ⟨name, _ | ⟨u, v⟩⟩ := p
  · rfl
  · rw [orderOf, ties_some_iff.mp h, Comparison.thenWith_eq]

theorem orderOf_of_not_ties (h : d.compareValues name u v ≠ .ok .eq) :
    d.orderOf ((name, some (u, v)) :: pairs) = d.compareValues name u v := by
  rw [orderOf]
  cases hc : d.compareValues name u v with
  | error e => rfl
  | ok o =>
    cases o with
    | eq => exact absurd hc h
    | lt => rfl
    | gt => rfl

theorem orderOf_append_of_ties (h : ∀ p ∈ before, d.Ties p) :
    d.orderOf (before ++ after) = d.orderOf after := by
  induction before with
  | nil => rfl
  | cons p before ih =>
    rw [List.cons_append, orderOf_of_ties (h p List.mem_cons_self)]
    exact ih fun q hq => h q (List.mem_cons_of_mem _ hq)

theorem orderOf_eq_ok_eq_iff : d.orderOf pairs = .ok .eq ↔ ∀ p ∈ pairs, d.Ties p := by
  induction pairs with
  | nil => simp [orderOf]
  | cons p pairs ih =>
    rw [List.forall_mem_cons]
    by_cases ht : d.Ties p
    · rw [orderOf_of_ties ht, ih]
      simp only [ht, true_and]
    · obtain ⟨name, _ | ⟨u, v⟩⟩ := p
      · exact absurd (d.ties_none name) ht
      · have hc := mt ties_some_iff.mpr ht
        rw [orderOf_of_not_ties hc]
        simp only [hc, ht, false_and]

/-- An outcome other than equality is that of the first attribute that does not tie. -/
theorem orderOf_decided {c : Comparison} (h : d.orderOf pairs = c) (hc : c ≠ .ok .eq) :
    ∃ before name u v after, pairs = before ++ (name, some (u, v)) :: after ∧
      (∀ p ∈ before, d.Ties p) ∧ d.compareValues name u v = c := by
  induction pairs with
  | nil => exact absurd h.symm hc
  | cons p pairs ih =>
    by_cases ht : d.Ties p
    · rw [orderOf_of_ties ht] at h
      obtain ⟨before, name, u, v, after, rfl, hbefore, hdecides⟩ := ih h
      refine ⟨p :: before, name, u, v, after, rfl, ?_, hdecides⟩
      exact List.forall_mem_cons.mpr ⟨ht, hbefore⟩
    · obtain ⟨name, _ | ⟨u, v⟩⟩ := p
      · exact absurd (d.ties_none name) ht
      · rw [orderOf_of_not_ties (mt ties_some_iff.mpr ht)] at h
        exact ⟨[], name, u, v, pairs, rfl, List.forall_mem_nil _, h⟩

/-! ### What a comparison depends on -/

theorem compareValues_congr (h : d.comparatorFor name = d'.comparatorFor name) (u v : Value) :
    d.compareValues name u v = d'.compareValues name u v := by
  rw [compareValues, compareValues, h]

theorem entriesOf_congr (h : ∀ p ∈ pairs, d.comparatorFor p.1 = d'.comparatorFor p.1) :
    d.entriesOf pairs = d'.entriesOf pairs := by
  induction pairs with
  | nil => rfl
  | cons p pairs ih =>
    obtain ⟨hp, hrest⟩ := List.forall_mem_cons.mp h
    obtain ⟨name, _ | ⟨u, v⟩⟩ := p
    · exact ih hrest
    · rw [entriesOf, entriesOf, compareValues_congr hp, ih hrest]

theorem orderOf_congr (h : ∀ p ∈ pairs, d.comparatorFor p.1 = d'.comparatorFor p.1) :
    d.orderOf pairs = d'.orderOf pairs := by
  induction pairs with
  | nil => rfl
  | cons p pairs ih =>
    obtain ⟨hp, hrest⟩ := List.forall_mem_cons.mp h
    obtain ⟨name, _ | ⟨u, v⟩⟩ := p
    · exact ih hrest
    · rw [orderOf, orderOf, compareValues_congr hp, ih hrest]

theorem pairUp_congr (h : d.typeName = d'.typeName) (readings : List (String × Reading × Reading)) :
    d.pairUp readings = d'.pairUp readings := by
  have hpair : ∀ name first last, d.readPair name first last = d'.readPair name first last := by
    intro name first last
    rw [readPair, readPair, h]
  induction readings with
  | nil => rfl
  | cons x rest ih => rw [pairUp, pairUp, hpair, ih]

theorem readPairs_congr (hresolver : d.resolver = d'.resolver) (hactive : d.active = d'.active)
    (first last : ι) : d.readPairs first last = d'.readPairs first last := by
  rw [readPairs, readPairs, ← hresolver, ← hactive]
  exact pairUp_congr (congrArg Resolver.typeName hresolver) _

/-- The difference of two instances, with all that is reported on the way, depends on the resolver,
on the attributes that are compared and on the entries that their values make. -/
theorem diff_eq_of_entriesOf (hresolver : d.resolver = d'.resolver) (hactive : d.active = d'.active)
    (hentries : ∀ first last, d.entriesOf (d.readPairs first last).value =
      d'.entriesOf (d.readPairs first last).value)
    (operands : Operands ι) : d.diff operands = d'.diff operands := by
  cases operands with
  | shared x => rfl
  | separate first last =>
    have hfinished : ∀ r, d.finished r = d'.finished r := by
      intro r
      cases r with
      | error e => rfl
      | ok entries => rw [finished, finished, typeName, typeName, hresolver, hactive]
    have hpairs := readPairs_congr hresolver hactive first last
    calc d.diff (.separate first last)
        = ⟨d.entriesOf (d.readPairs first last).value, (d.readPairs first last).log ++
            (d.finished (d.entriesOf (d.readPairs first last).value) ++ [])⟩ := rfl
      _ = ⟨d'.entriesOf (d'.readPairs first last).value, (d'.readPairs first last).log ++
            (d'.finished (d'.entriesOf (d'.readPairs first last).value) ++ [])⟩ := by
          rw [hentries, hfinished, hpairs]
      _ = d'.diff (.separate first last) := rfl

/-- In particular it depends on the comparators of these attributes. -/
theorem diff_congr (hresolver : d.resolver = d'.resolver) (hactive : d.active = d'.active)
    (hcomparator : ∀ name ∈ d.active, d.comparatorFor name = d'.comparatorFor name)
    (operands : Operands ι) : d.diff operands = d'.diff operands := by
  refine diff_eq_of_entriesOf hresolver hactive (fun first last => ?_) operands
  exact entriesOf_congr fun p hp => hcomparator p.1 (mem_active_of_mem_readPairs hp)

theorem orderByAttributes_congr (hresolver : d.resolver = d'.resolver)
    (hactive : d.active = d'.active)
    (hcomparator : ∀ name ∈ d.active, d.comparatorFor name = d'.comparatorFor name)
    (operands : Operands ι) : d.orderByAttributes operands = d'.orderByAttributes operands := by
  cases operands with
  | shared x => rfl
  | separate first last =>
    have horder : d.orderOf (d.readPairs first last).value =
        d'.orderOf (d.readPairs first last).value :=
      orderOf_congr fun p hp => hcomparator p.1 (mem_active_of_mem_readPairs hp)
    have hpairs := readPairs_congr hresolver hactive first last
    calc d.orderByAttributes (.separate first last)
        = ⟨d.orderOf (d.readPairs first last).value, (d.readPairs first last).log ++ []⟩ := rfl
      _ = ⟨d'.orderOf (d'.readPairs first last).value, (d'.readPairs first last).log ++ []⟩ := by
          rw [horder, hpairs]
      _ = d'.orderByAttributes (.separate first last) := rfl

/-- The order of whole instances depends on the comparator for them and on the place of absent ones
besides. -/
theorem compare_congr (hresolver : d.resolver = d'.resolver) (hactive : d.active = d'.active)
    (hcomparator : ∀ name ∈ d.active, d.comparatorFor name = d'.comparatorFor name)
    (hbase : d.base? = d'.base?) (hnulls : d.nullsLast = d'.nullsLast) (first last : Option ι) :
    d.compare first last = d'.compare first last := by
  unfold compare
  rw [← hbase, ← hnulls]
  cases d.base? with
  | some base => rfl
  | none =>
    cases first with
    | none => cases last <;> rfl
    | some a =>
      cases last with
      | none => rfl
      | some b => exact orderByAttributes_congr hresolver hactive hcomparator _

theorem comparePresent_congr (hresolver : d.resolver = d'.resolver)
    (hactive : d.active = d'.active)
    (hcomparator : ∀ name ∈ d.active, d.comparatorFor name = d'.comparatorFor name)
    (hbase : d.base? = d'.base?) (operands : Operands ι) :
    d.comparePresent operands = d'.comparePresent operands := by
  unfold comparePresent
  rw [← hbase]
  cases d.base? with
  | some base => rfl
  | none => exact orderByAttributes_congr hresolver hactive hcomparator operands

end RecordDiff.Differ
