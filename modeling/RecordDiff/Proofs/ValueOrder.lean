import RecordDiff.Proofs.Lawful
import RecordDiff.Proofs.ScalarOrder

/-!
# The order of values is a preorder

Values of any depth are ordered lawfully wherever they can be compared. The proofs go by induction
along what a value contains, and the step of each splits on the shapes of the operands. There are
`24 ^ 2` pairs of shapes and `24 ^ 3` triples, but an outcome exists for twenty-six pairs only;
`Matched` lists these, and no proof looks at any other pair.

## Main definitions

* `Value.members` - what a value directly contains
* `Value.Matched` - the pairs of shapes for which there may be an outcome

## Main results

* `Value.inductionOn` - induction along what values contain
* `Comparator.valueOrder_self` - every operand is equal to itself
* `Comparator.lawful_valueOrder` - outcomes are reversed and compose
* `Comparator.valueOrder_preorder` - the three laws together, with failure in both directions
-/

namespace RecordDiff

open Comparison

namespace Value

/-! ### Induction over values -/

/-- What a value directly contains: the items of a list, the keys and the values of a map, the
values of a record's fields. -/
def members : Value → List Value
  | .list items => items
  | .map entries => entries.map Prod.fst ++ entries.map Prod.snd
  | .record _ fields => fields.map Prod.snd
  | _ => []

theorem key_mem_members {entries : List (Value × Value)} {e : Value × Value} (h : e ∈ entries) :
    e.1 ∈ (map entries).members :=
  List.mem_append_left _ (List.mem_map_of_mem h)

theorem value_mem_members {entries : List (Value × Value)} {e : Value × Value} (h : e ∈ entries) :
    e.2 ∈ (map entries).members :=
  List.mem_append_right _ (List.mem_map_of_mem h)

theorem field_mem_members {typeName : String} {fields : List (String × Value)}
    {e : String × Value} (h : e ∈ fields) : e.2 ∈ (record typeName fields).members :=
  List.mem_map_of_mem h

theorem sizeOf_lt_of_mem_members {v w : Value} (h : w ∈ v.members) : sizeOf w < sizeOf v := by
  cases v with
  | list items =>
    have hlt : sizeOf w < sizeOf items := List.sizeOf_lt_of_mem h
    simp only [list.sizeOf_spec]
    omega
  | map entries =>
    simp only [map.sizeOf_spec]
    rcases List.mem_append.mp h with h | h <;>
    · obtain ⟨⟨k, x⟩, he, rfl⟩ := List.mem_map.mp h
      have hlt := List.sizeOf_lt_of_mem he
      simp only [Prod.mk.sizeOf_spec] at hlt ⊢
      omega
  | record typeName fields =>
    obtain ⟨⟨name, x⟩, he, rfl⟩ := List.mem_map.mp h
    have hlt := List.sizeOf_lt_of_mem he
    simp only [record.sizeOf_spec, Prod.mk.sizeOf_spec] at hlt ⊢
    omega
  | _ => cases h

/-- Induction along what values contain. -/
@[elab_as_elim]
theorem inductionOn {motive : Value → Prop} (v : Value)
    (step : ∀ v, (∀ w ∈ v.members, motive w) → motive v) : motive v :=
  step v fun w _ => inductionOn w step
termination_by v
decreasing_by exact sizeOf_lt_of_mem_members ‹_›

/-! ### Shapes that can be compared -/

/-- The pairs of shapes for which there may be an outcome: those of one kind and of one type of
record, and the two kinds of numbers that are compared as numbers. -/
inductive Matched : Value → Value → Prop
  | null : Matched .null .null
  | bool (a b) : Matched (.bool a) (.bool b)
  | byte (a b) : Matched (.byte a) (.byte b)
  | short (a b) : Matched (.short a) (.short b)
  | char (a b) : Matched (.char a) (.char b)
  | int (a b) : Matched (.int a) (.int b)
  | long (a b) : Matched (.long a) (.long b)
  | float (a b) : Matched (.float a) (.float b)
  | double (a b) : Matched (.double a) (.double b)
  | string (a b) : Matched (.string a) (.string b)
  | decimal (a b) : Matched (.decimal a) (.decimal b)
  | longDecimal (a b) : Matched (.long a) (.decimal b)
  | decimalLong (a b) : Matched (.decimal a) (.long b)
  | locale (a b) : Matched (.locale a) (.locale b)
  | timestamp (a b) : Matched (.timestamp a) (.timestamp b)
  | boolArray (xs ys) : Matched (.boolArray xs) (.boolArray ys)
  | byteArray (xs ys) : Matched (.byteArray xs) (.byteArray ys)
  | shortArray (xs ys) : Matched (.shortArray xs) (.shortArray ys)
  | charArray (xs ys) : Matched (.charArray xs) (.charArray ys)
  | intArray (xs ys) : Matched (.intArray xs) (.intArray ys)
  | longArray (xs ys) : Matched (.longArray xs) (.longArray ys)
  | floatArray (xs ys) : Matched (.floatArray xs) (.floatArray ys)
  | doubleArray (xs ys) : Matched (.doubleArray xs) (.doubleArray ys)
  | list (xs ys) : Matched (.list xs) (.list ys)
  | map (xs ys) : Matched (.map xs) (.map ys)
  | record (typeName xs ys) : Matched (.record typeName xs) (.record typeName ys)

/-- The number that a long or a decimal is. -/
def number? : Value → Option Decimal
  | .long n => some (Decimal.ofInt n.toInt)
  | .decimal d => some d
  | _ => none

theorem matched_of_naturalOrder {a b : Value} {o : Ordering} (h : naturalOrder a b = .ok o) :
    Matched a b := by
  rw [naturalOrder.eq_def] at h
  split at h
  case h_25 =>
    split at h
    · rename_i hname
      subst hname
      exact .record _ _ _
    · cases h
  case h_26 => cases h
  all_goals constructor

theorem matched_of_valueOrder {a b : Value} {o : Ordering}
    (h : Comparator.valueOrder.compare (some a) (some b) = .ok o) : Matched a b := by
  rw [← bothPresent_eq_valueOrder] at h
  unfold bothPresent at h
  split at h
  · exact .null
  · cases h
  · cases h
  · exact matched_of_naturalOrder h

/-- A law on opposite outcomes is only to be shown where there are outcomes. -/
theorem opposes_of_matched {a b : Value} {r : Comparison}
    (h : Matched a b → (Comparator.valueOrder.compare (some a) (some b)).Opposes r) :
    (Comparator.valueOrder.compare (some a) (some b)).Opposes r :=
  fun o ho => h (matched_of_valueOrder ho) o ho

/-- A law on composed outcomes is only to be shown where there are outcomes. -/
theorem composes_of_matched {a b d : Value} {r : Comparison}
    (h : Matched a b → Matched b d → (Comparator.valueOrder.compare (some a) (some b)).Composes
      (Comparator.valueOrder.compare (some b) (some d)) r) :
    (Comparator.valueOrder.compare (some a) (some b)).Composes
      (Comparator.valueOrder.compare (some b) (some d)) r :=
  fun o₁ o₂ h₁ h₂ => h (matched_of_valueOrder h₁) (matched_of_valueOrder h₂) o₁ o₂ h₁ h₂

end Value

/-! ### Corresponding lists -/

/-- Related pairs, taken apart into their two sides. -/
theorem forall₂_and_iff {α β γ δ : Type*} {R : α → γ → Prop} {S : β → δ → Prop}
    {xs : List (α × β)} {ys : List (γ × δ)} :
    List.Forall₂ (fun x y => R x.1 y.1 ∧ S x.2 y.2) xs ys ↔
      List.Forall₂ R (xs.map Prod.fst) (ys.map Prod.fst) ∧
        List.Forall₂ S (xs.map Prod.snd) (ys.map Prod.snd) := by
  induction xs generalizing ys with
  | nil => cases ys <;> simp
  | cons x xs ih =>
    cases ys with
    | nil => simp
    | cons y ys => simp [ih, and_and_and_comm]

namespace Comparator

open Value

/-! ### Operands -/

/-- Null and an absent operand are the same to the order. -/
theorem valueOrder_getD (a b : Option Value) :
    valueOrder.compare a b = valueOrder.compare (some (a.getD .null)) (some (b.getD .null)) := by
  cases a <;> cases b <;> rfl

theorem elementOrder_present? (v w : Value) :
    elementOrder valueOrder v.present? w.present? = valueOrder.compare (some v) (some w) := by
  rw [← bothPresent_naturalOrder, bothPresent_eq_valueOrder]

theorem valueOrder_list (xs ys : List Value) :
    valueOrder.compare (some (.list xs)) (some (.list ys)) =
      lexicographic valueOrder (xs.map present?) (ys.map present?) :=
  naturalOrder_list xs ys

theorem valueOrder_map (xs ys : List (Value × Value)) :
    valueOrder.compare (some (.map xs)) (some (.map ys)) =
      lexicographic (entry valueOrder nullsFirst) (xs.map some) (ys.map some) :=
  naturalOrder_map xs ys

theorem valueOrder_record (typeName : String) (xs ys : List (String × Value)) :
    valueOrder.compare (some (.record typeName xs)) (some (.record typeName ys)) =
      lexicographic (entry (natural "name") nullsFirst) (xs.map some) (ys.map some) :=
  (naturalOrder_record typeName typeName xs ys).trans (if_pos rfl)

/-- Numbers are compared as decimals, whichever of them are longs. -/
theorem valueOrder_numbers {a b : Value} {p q : Decimal} (ha : a.number? = some p)
    (hb : b.number? = some q) : valueOrder.compare (some a) (some b) = .ok (Ord.compare p q) := by
  unfold number? at ha hb
  split at ha <;> split at hb <;> cases ha <;> cases hb
  · exact congrArg Except.ok (Decimal.compare_ofInt_toInt _ _).symm
  all_goals rfl

/-! ### Nulls inside maps and records -/

theorem nullsFirst_opposes {a b : Value}
    (h : (valueOrder.compare (some a) (some b)).Opposes (valueOrder.compare (some b) (some a))) :
    (nullsFirst.compare (some a) (some b)).Opposes (nullsFirst.compare (some b) (some a)) := by
  refine nullSafe_opposes false fun x hx y hy => ?_
  obtain ⟨rfl, -⟩ := present?_eq_some_iff.mp hx
  obtain ⟨rfl, -⟩ := present?_eq_some_iff.mp hy
  exact h

theorem nullsFirst_composes {a b d : Value}
    (h : (valueOrder.compare (some a) (some b)).Composes (valueOrder.compare (some b) (some d))
      (valueOrder.compare (some a) (some d))) :
    (nullsFirst.compare (some a) (some b)).Composes (nullsFirst.compare (some b) (some d))
      (nullsFirst.compare (some a) (some d)) := by
  refine nullSafe_composes false fun x hx y hy z hz => ?_
  obtain ⟨rfl, -⟩ := present?_eq_some_iff.mp hx
  obtain ⟨rfl, -⟩ := present?_eq_some_iff.mp hy
  obtain ⟨rfl, -⟩ := present?_eq_some_iff.mp hz
  exact h

/-- Where the order of values has an outcome, the place of nulls does not matter. -/
theorem nullSafe_present? {v w : Value} {o : Ordering}
    (h : valueOrder.compare (some v) (some w) = .ok o) (nullsLast : Bool) :
    (valueOrder.nullSafe nullsLast).compare v.present? w.present? = .ok o := by
  have hmatched := matched_of_valueOrder h
  by_cases hv : v = .null
  · subst hv
    cases hmatched
    exact h
  · have hw : w ≠ .null := by
      rintro rfl
      cases hmatched
      exact hv rfl
    rw [present?_eq_some_iff.mpr ⟨rfl, hv⟩, present?_eq_some_iff.mpr ⟨rfl, hw⟩]
    exact h

/-- Whether two operands tie does not depend on where nulls go. -/
theorem nullSafe_present?_eq_iff {v w : Value} {nullsLast : Bool} :
    (valueOrder.nullSafe nullsLast).compare v.present? w.present? = .ok .eq ↔
      valueOrder.compare (some v) (some w) = .ok .eq := by
  refine ⟨fun h => ?_, fun h => nullSafe_present? h nullsLast⟩
  cases hv : v.present? with
  | none =>
    obtain rfl := present?_eq_none_iff.mp hv
    cases hw : w.present? with
    | none =>
      obtain rfl := present?_eq_none_iff.mp hw
      rfl
    | some w' =>
      rw [hv, hw] at h
      cases nullsLast <;> cases h
  | some v' =>
    obtain ⟨rfl, -⟩ := present?_eq_some_iff.mp hv
    cases hw : w.present? with
    | none =>
      rw [hv, hw] at h
      cases nullsLast <;> cases h
    | some w' =>
      obtain ⟨rfl, -⟩ := present?_eq_some_iff.mp hw
      rwa [hv, hw] at h

theorem nullsFirst_eq_iff {a b : Value} :
    nullsFirst.compare (some a) (some b) = .ok .eq ↔
      valueOrder.compare (some a) (some b) = .ok .eq :=
  nullSafe_present?_eq_iff

/-! ### Equal collections -/

theorem valueOrder_list_eq_iff {xs ys : List Value} :
    valueOrder.compare (some (.list xs)) (some (.list ys)) = .ok .eq ↔
      List.Forall₂ (fun v w => valueOrder.compare (some v) (some w) = .ok .eq) xs ys := by
  rw [valueOrder_list, lexicographic_map_eq_iff]
  simp only [elementOrder_present?]

theorem entry_eq_iff {κ ν : Type*} {key : Comparator κ} {value : Comparator ν}
    {xs ys : List (κ × ν)} :
    lexicographic (entry key value) (xs.map some) (ys.map some) = .ok .eq ↔
      List.Forall₂ (fun k l => key.compare (some k) (some l) = .ok .eq)
          (xs.map Prod.fst) (ys.map Prod.fst) ∧
        List.Forall₂ (fun v w => value.compare (some v) (some w) = .ok .eq)
          (xs.map Prod.snd) (ys.map Prod.snd) := by
  have h : ∀ x y : κ × ν, elementOrder (entry key value) (some x) (some y) = .ok .eq ↔
      key.compare (some x.1) (some y.1) = .ok .eq ∧ value.compare (some x.2) (some y.2) = .ok .eq :=
    fun x y => thenWith_eq_ok_eq_iff
  rw [lexicographic_map_eq_iff, ← forall₂_and_iff]
  simp only [h]

theorem valueOrder_map_eq_iff {xs ys : List (Value × Value)} :
    valueOrder.compare (some (.map xs)) (some (.map ys)) = .ok .eq ↔
      List.Forall₂ (fun v w => valueOrder.compare (some v) (some w) = .ok .eq)
          (xs.map Prod.fst) (ys.map Prod.fst) ∧
        List.Forall₂ (fun v w => valueOrder.compare (some v) (some w) = .ok .eq)
          (xs.map Prod.snd) (ys.map Prod.snd) := by
  rw [valueOrder_map, entry_eq_iff]
  simp only [nullsFirst_eq_iff]

theorem valueOrder_record_eq_iff {typeName : String} {xs ys : List (String × Value)} :
    valueOrder.compare (some (.record typeName xs)) (some (.record typeName ys)) = .ok .eq ↔
      xs.map Prod.fst = ys.map Prod.fst ∧
        List.Forall₂ (fun v w => valueOrder.compare (some v) (some w) = .ok .eq)
          (xs.map Prod.snd) (ys.map Prod.snd) := by
  have hname : ∀ m n : String,
      (natural "name" : Comparator String).compare (some m) (some n) = .ok .eq ↔ m = n :=
    fun m n => (Except.ok.injEq _ _).to_iff.trans Std.LawfulEqOrd.compare_eq_iff_eq
  rw [valueOrder_record, entry_eq_iff]
  simp only [hname, nullsFirst_eq_iff, List.forall₂_eq_eq_eq]

/-! ### The three laws on values -/

theorem composes_numbers {a b d : Value} {p q r : Decimal} (ha : a.number? = some p)
    (hb : b.number? = some q) (hd : d.number? = some r) :
    (valueOrder.compare (some a) (some b)).Composes (valueOrder.compare (some b) (some d))
      (valueOrder.compare (some a) (some d)) := by
  rw [valueOrder_numbers ha hb, valueOrder_numbers hb hd, valueOrder_numbers ha hd]
  exact composes_compare p q r

/-- A value is equal to itself, whatever nulls and NaNs it contains. -/
theorem valueOrder_some_self (a : Value) : valueOrder.compare (some a) (some a) = .ok .eq := by
  induction a using Value.inductionOn with
  | step a ih =>
    cases a with
    | null => rfl
    | floatArray xs =>
      exact (lexicographic_natural "element" xs xs).trans
        (congrArg Except.ok Std.ReflCmp.compare_self)
    | doubleArray xs =>
      exact (lexicographic_natural "element" xs xs).trans
        (congrArg Except.ok Std.ReflCmp.compare_self)
    | list xs =>
      rw [valueOrder_list_eq_iff, List.forall₂_same]
      exact ih
    | map xs =>
      rw [valueOrder_map_eq_iff, List.forall₂_same, List.forall₂_same]
      exact ⟨fun k hk => ih k (List.mem_append_left _ hk),
        fun v hv => ih v (List.mem_append_right _ hv)⟩
    | record typeName xs =>
      rw [valueOrder_record_eq_iff, List.forall₂_same]
      exact ⟨rfl, ih⟩
    | _ => exact congrArg Except.ok Std.ReflCmp.compare_self

theorem valueOrder_some_opposes (a b : Value) :
    (valueOrder.compare (some a) (some b)).Opposes (valueOrder.compare (some b) (some a)) := by
  induction a using Value.inductionOn generalizing b with
  | step a ih =>
    refine opposes_of_matched fun hab => ?_
    cases hab with
    | null => exact opposes_ok .eq
    | longDecimal x y => exact opposes_compare _ _
    | decimalLong x y => exact opposes_compare _ _
    | floatArray xs ys => exact (lawful_natural "element").lexicographic_opposes _ _
    | doubleArray xs ys => exact (lawful_natural "element").lexicographic_opposes _ _
    | list xs ys =>
      rw [valueOrder_list, valueOrder_list]
      refine lexicographic_map_opposes fun v hv w _ => ?_
      rw [elementOrder_present?, elementOrder_present?]
      exact ih v hv w
    | map xs ys =>
      rw [valueOrder_map, valueOrder_map]
      refine lexicographic_map_opposes fun e he f _ => ?_
      exact (ih e.1 (key_mem_members he) f.1).thenWith
        (nullsFirst_opposes (ih e.2 (value_mem_members he) f.2))
    | record typeName xs ys =>
      rw [valueOrder_record, valueOrder_record]
      refine lexicographic_map_opposes fun e he f _ => ?_
      exact (opposes_compare e.1 f.1).thenWith
        (nullsFirst_opposes (ih e.2 (field_mem_members he) f.2))
    | _ => exact opposes_compare _ _

theorem valueOrder_some_composes (a b d : Value) :
    (valueOrder.compare (some a) (some b)).Composes (valueOrder.compare (some b) (some d))
      (valueOrder.compare (some a) (some d)) := by
  induction a using Value.inductionOn generalizing b d with
  | step a ih =>
    refine composes_of_matched fun hab hbd => ?_
    cases hab with
    | null => cases hbd; exact composes_eq_left _
    | floatArray xs ys =>
      cases hbd; exact (lawful_natural "element").lexicographic_composes _ _ _
    | doubleArray xs ys =>
      cases hbd; exact (lawful_natural "element").lexicographic_composes _ _ _
    | list xs ys =>
      cases hbd with | list _ zs =>
      rw [valueOrder_list, valueOrder_list, valueOrder_list]
      refine lexicographic_map_composes fun v hv w _ x _ => ?_
      rw [elementOrder_present?, elementOrder_present?, elementOrder_present?]
      exact ih v hv w x
    | map xs ys =>
      cases hbd with | map _ zs =>
      rw [valueOrder_map, valueOrder_map, valueOrder_map]
      refine lexicographic_map_composes fun e he f _ g _ => ?_
      exact (ih e.1 (key_mem_members he) f.1 g.1).thenWith
        (nullsFirst_composes (ih e.2 (value_mem_members he) f.2 g.2))
    | record typeName xs ys =>
      cases hbd with | record _ _ zs =>
      rw [valueOrder_record, valueOrder_record, valueOrder_record]
      refine lexicographic_map_composes fun e he f _ g _ => ?_
      exact (composes_compare e.1 f.1 g.1).thenWith
        (nullsFirst_composes (ih e.2 (field_mem_members he) f.2 g.2))
    | long x y => cases hbd <;> exact composes_numbers rfl rfl rfl
    | decimal x y => cases hbd <;> exact composes_numbers rfl rfl rfl
    | longDecimal x y => cases hbd <;> exact composes_numbers rfl rfl rfl
    | decimalLong x y => cases hbd <;> exact composes_numbers rfl rfl rfl
    | _ => cases hbd; exact composes_compare _ _ _

/-! ### The laws on operands -/

/-- The order of values is lawful. -/
theorem lawful_valueOrder : valueOrder.Lawful where
  opposes a b := by
    rw [valueOrder_getD a b, valueOrder_getD b a]
    exact valueOrder_some_opposes _ _
  composes a b d := by
    rw [valueOrder_getD a b, valueOrder_getD b d, valueOrder_getD a d]
    exact valueOrder_some_composes _ _ _

theorem valueOrder_self (a : Option Value) : valueOrder.compare a a = .ok .eq := by
  rw [valueOrder_getD]
  exact valueOrder_some_self _

/-- **The order of values is a total preorder wherever it answers.** Every operand, absent, null or
a value of any depth, is equal to itself. Exchanged operands give the opposite outcome, so that
neither direction fails alone. Of three operands of which neither pair in a row is greater, the
outer pair has an outcome, less when one of the two was less and equal otherwise. -/
theorem valueOrder_preorder :
    (∀ a : Option Value, valueOrder.compare a a = .ok .eq) ∧
    (∀ (a b : Option Value) (o : Ordering),
      valueOrder.compare a b = .ok o → valueOrder.compare b a = .ok o.swap) ∧
    (∀ a b : Option Value,
      (∃ e, valueOrder.compare a b = .error e) ↔ ∃ e, valueOrder.compare b a = .error e) ∧
    ∀ (a b d : Option Value) (o₁ o₂ : Ordering), valueOrder.compare a b = .ok o₁ →
      valueOrder.compare b d = .ok o₂ → o₁ ≠ .gt → o₂ ≠ .gt →
      valueOrder.compare a d = .ok (if o₁ = .lt ∨ o₂ = .lt then .lt else .eq) := by
  refine ⟨valueOrder_self, lawful_valueOrder.opposes, fun a b => ?_, lawful_valueOrder.composes⟩
  exact lawful_valueOrder.fails_iff a b

/-- Three lists in a row, of which the first two are equal across kinds of numbers and scales, and
the last one goes on past their nulls. -/
theorem valueOrder_preorder_lists :
    valueOrder.compare (some (.list [.long 1, .null])) (some (.list [.decimal ⟨10, 1⟩, .null])) =
        .ok .eq ∧
      valueOrder.compare (some (.list [.decimal ⟨10, 1⟩, .null]))
        (some (.list [.decimal ⟨100, 2⟩, .null, .bool true])) = .ok .lt ∧
      valueOrder.compare (some (.list [.decimal ⟨100, 2⟩, .null, .bool true]))
        (some (.list [.decimal ⟨10, 1⟩, .null])) = .ok .gt ∧
      valueOrder.compare (some (.list [.long 1, .null]))
        (some (.list [.decimal ⟨100, 2⟩, .null, .bool true])) = .ok .lt := by
  have hab : valueOrder.compare (some (.list [.long 1, .null]))
      (some (.list [.decimal ⟨10, 1⟩, .null])) = .ok .eq := by decide +kernel
  have hbd : valueOrder.compare (some (.list [.decimal ⟨10, 1⟩, .null]))
      (some (.list [.decimal ⟨100, 2⟩, .null, .bool true])) = .ok .lt := by decide +kernel
  exact ⟨hab, hbd, valueOrder_preorder.2.1 _ _ _ hbd,
    valueOrder_preorder.2.2.2 _ _ _ _ _ hab hbd nofun nofun⟩

end Comparator

end RecordDiff
