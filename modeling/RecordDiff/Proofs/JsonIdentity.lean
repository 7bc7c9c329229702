import RecordDiff.Proofs.ValueIdentity
import RecordDiff.Value.Json

/-!
# JSON data read as values

JSON data becomes values before it is compared, and the order of values identifies some of them:
longs and decimals of one number, and null with what is absent. No two JSON values fall together
for that. A whole number is read as a long or as a decimal according to its size, so different ones
keep different numbers; doubles keep their words; objects keep their keys and the order of these.

## Main definitions

* `Json.parts` - what JSON data directly contains
* `Json.integer?` - the whole number that JSON data is

## Main results

* `Json.inductionOn` - induction along what JSON data contains
* `Value.identified_ofJson_iff` - JSON data that is read as one value is the same
-/

namespace RecordDiff

namespace Json

/-! ### Induction over JSON data -/

/-- What a JSON value directly contains: the items of an array, the values of an object. -/
def parts : Json → List Json
  | .array items => items
  | .object members => members.map Prod.snd
  | _ => []

theorem sizeOf_lt_of_mem_parts {j k : Json} (h : k ∈ j.parts) : sizeOf k < sizeOf j := by
  cases j with
  | array items =>
    have hlt : sizeOf k < sizeOf items := List.sizeOf_lt_of_mem h
    simp only [array.sizeOf_spec]
    omega
  | object members =>
    obtain ⟨⟨key, v⟩, hm, rfl⟩ := List.mem_map.mp h
    have hlt := List.sizeOf_lt_of_mem hm
    simp only [object.sizeOf_spec, Prod.mk.sizeOf_spec] at hlt ⊢
    omega
  | _ => cases h

/-- Induction along what JSON data contains. -/
@[elab_as_elim]
theorem inductionOn {motive : Json → Prop} (j : Json)
    (step : ∀ j, (∀ k ∈ j.parts, motive k) → motive j) : motive j :=
  step j fun k _ => inductionOn k step
termination_by j
decreasing_by exact sizeOf_lt_of_mem_parts ‹_›

/-- The whole number that a JSON value is. -/
def integer? : Json → Option ℤ
  | .integer n => some n
  | _ => none

end Json

namespace Value

/-! ### Numbers -/

/-- Identified values are the same number, or none of them is one. -/
theorem Identified.number_eq {a b : Value} (h : a.Identified b) :
    a.number?.map Decimal.value = b.number?.map Decimal.value := by
  cases h with
  | decimal h => exact congrArg some h
  | longDecimal h => exact congrArg some ((Decimal.value_ofInt _).trans h)
  | decimalLong h => exact congrArg some (h.trans (Decimal.value_ofInt _).symm)
  | _ => rfl

theorem number?_ofInteger (n : ℤ) : (ofInteger n).number?.map Decimal.value = some (n : ℚ) := by
  rw [ofInteger, Int64.toInt_minValue, Int64.toInt_maxValue]
  split
  · rename_i hfits
    have hlong : (Int64.ofInt n).toInt = n := Int64.toInt_ofInt_of_le hfits.1 (by omega)
    rw [number?, hlong, Option.map_some, Decimal.value_ofInt]
  · rw [number?, Option.map_some, Decimal.value_ofInt]

/-- JSON data keeps its number. -/
theorem number?_ofJson (j : Json) :
    (ofJson j).number?.map Decimal.value = j.integer?.map fun n : ℤ => (n : ℚ) := by
  cases j with
  | integer n => exact number?_ofInteger n
  | _ => rfl

theorem integer?_eq_of_identified {j k : Json} (h : (ofJson j).Identified (ofJson k)) :
    j.integer? = k.integer? := by
  have hnumber := h.number_eq
  rw [number?_ofJson, number?_ofJson] at hnumber
  exact Option.map_injective Int.cast_injective hnumber

/-! ### Contents -/

theorem Identified.items {xs ys : List Value} (h : (Value.list xs).Identified (.list ys)) :
    List.Forall₂ Identified xs ys := by
  cases h with
  | same => exact List.forall₂_same.mpr fun v _ => .same v
  | list h => exact h

theorem Identified.fields {m n : String} {xs ys : List (String × Value)}
    (h : (Value.record m xs).Identified (.record n ys)) :
    xs.map Prod.fst = ys.map Prod.fst ∧
      List.Forall₂ Identified (xs.map Prod.snd) (ys.map Prod.snd) := by
  cases h with
  | same => exact ⟨rfl, List.forall₂_same.mpr fun v _ => .same v⟩
  | record names values => exact ⟨names, values⟩

/-- Data of which the items are read apart is read apart. -/
theorem eq_of_forall₂_ofJson {js ks : List Json}
    (hparts : ∀ j ∈ js, ∀ k, (ofJson j).Identified (ofJson k) → j = k)
    (h : List.Forall₂ Identified (js.map ofJson) (ks.map ofJson)) : js = ks := by
  rw [List.forall₂_map_left_iff, List.forall₂_map_right_iff] at h
  exact List.forall₂_eq_eq_eq ▸ forall₂_imp_of_mem hparts h

/-! ### Identity -/

theorem eq_of_identified_ofJson {j k : Json} (h : (ofJson j).Identified (ofJson k)) : j = k := by
  induction j using Json.inductionOn generalizing k with
  | step j ih =>
    have hinteger := integer?_eq_of_identified h
    have hparts : ∀ part ∈ j.parts, ∀ k, (ofJson part).Identified (ofJson k) → part = k :=
      fun part hpart k => ih part hpart
    cases j with
    | null =>
      cases k with
      | null => rfl
      | integer n => cases hinteger
      | _ => cases h
    | bool b =>
      cases k with
      | integer n => cases hinteger
      | bool b' => cases h; rfl
      | _ => cases h
    | integer m =>
      cases k with
      | integer n => exact congrArg Json.integer (Option.some.inj hinteger)
      | _ => cases hinteger
    | double x =>
      cases k with
      | integer n => cases hinteger
      | double y => cases h; rfl
      | _ => cases h
    | string s =>
      cases k with
      | integer n => cases hinteger
      | string t => cases h; rfl
      | _ => cases h
    | array js =>
      cases k with
      | integer n => cases hinteger
      | array ks =>
        rw [ofJson, ofJson, itemsOfJson_eq_map, itemsOfJson_eq_map] at h
        exact congrArg Json.array (eq_of_forall₂_ofJson hparts h.items)
      | _ => cases h
    | object ms =>
      cases k with
      | integer n => cases hinteger
      | object ns =>
        rw [ofJson, ofJson, fieldsOfJson_eq_map, fieldsOfJson_eq_map] at h
        obtain ⟨hnames, hvalues⟩ := h.fields
        rw [List.map_map, List.map_map] at hnames hvalues
        have hkeys : ms.map Prod.fst = ns.map Prod.fst := hnames
        have hdata : ms.map Prod.snd = ns.map Prod.snd := by
          refine eq_of_forall₂_ofJson hparts ?_
          rw [List.map_map, List.map_map]
          exact hvalues
        have hms : ms = ns := (List.zip_of_prod hkeys hdata).trans (List.zip_of_prod rfl rfl).symm
        rw [hms]
      | _ => cases h

theorem identified_ofJson_iff {j k : Json} : (ofJson j).Identified (ofJson k) ↔ j = k := by
  refine ⟨eq_of_identified_ofJson, ?_⟩
  rintro rfl
  exact .same _

end Value

/-- The order of values decides whether JSON data is the same. -/
instance : DecidableEq Json := fun j k =>
  decidable_of_iff (Comparator.valueOrder.compare (some (.ofJson j)) (some (.ofJson k)) = .ok .eq)
    (Iff.trans ⟨Comparator.identified_of_valueOrder_eq, Comparator.valueOrder_eq_of_identified⟩
      Value.identified_ofJson_iff)

end RecordDiff
