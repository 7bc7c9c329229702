import RecordDiff.Proofs.JsonIdentity

/-!
# JSON data through values

JSON data that is read as a value and written again comes back as it was, with its arrays and its
objects in order, save for whole numbers beyond 64 bits with a sign. These are read as decimals, and
decimals are written as strings, in digits: nothing of the number is lost, but it is a number no
longer. Whole numbers that fit 64 bits with a sign, doubles and all else are left as they are.

Documents hold whole numbers of 64 bits, with a sign or without, and finite doubles, and the keys of
an object are distinct. Numbers that are not finite would come back as null, and members with one
key would become one.

## Main definitions

* `Json.Occurs` - JSON data inside JSON data
* `Json.WellFormed` - what documents hold
* `Json.spelled` - the data in which large whole numbers are strings

## Main results

* `Json.spelled_eq_self_iff` - when there are none
* `Value.toJson_ofJson_eq_spelled` - what comes back
-/

namespace RecordDiff

/-! ### Decimals -/

/-- A whole number is written in its digits. -/
theorem Decimal.text_ofInt (n : ℤ) : (ofInt n).text = toString n := by
  have hplaces : ∀ digits : List Char, magnitudeChars digits 0 = digits := by
    intro digits
    simp [magnitudeChars, mostTrailingZeros, Digits.positional]
  rw [text, ofInt, hplaces]
  cases n with
  | ofNat m => cases m <;> rfl
  | negSucc m =>
    have hnegative := Int.negSucc_lt_zero m
    simp only [if_neg hnegative.ne, if_pos hnegative, String.ofList_cons]
    rfl

namespace Json

/-! ### Data inside data -/

/-- The data `k` occurs in the data, at some depth. -/
inductive Occurs (k : Json) : Json → Prop
  | self : Occurs k k
  | part {j part : Json} (hpart : part ∈ j.parts) (h : Occurs k part) : Occurs k j

/-- What holds of all that occurs in some data holds of the data and of all that occurs in its
parts. -/
theorem forall_occurs_iff {P : Json → Prop} {j : Json} :
    (∀ k, Occurs k j → P k) ↔ P j ∧ ∀ part ∈ j.parts, ∀ k, Occurs k part → P k := by
  constructor
  · intro h
    exact ⟨h j .self, fun part hpart k hk => h k (.part hpart hk)⟩
  · rintro ⟨hself, hparts⟩ k hk
    cases hk with
    | self => exact hself
    | part hpart hk => exact hparts _ hpart k hk

theorem forall_occurs_integer_iff {P : ℤ → Prop} {j : Json} :
    (∀ n, Occurs (.integer n) j → P n) ↔
      (∀ n, .integer n = j → P n) ∧ ∀ part ∈ j.parts, ∀ n, Occurs (.integer n) part → P n := by
  have hall : ∀ j : Json, (∀ n, Occurs (.integer n) j → P n) ↔
      ∀ k, Occurs k j → ∀ n, .integer n = k → P n := by
    intro j
    exact ⟨fun h k hk n hn => h n (hn ▸ hk), fun h n hn => h _ hn n rfl⟩
  simp only [hall]
  exact forall_occurs_iff

/-- The data itself is of a document: a whole number fits 64 bits, with a sign or without, a double
is finite, and the keys of an object are distinct. -/
def Admissible : Json → Prop
  | .integer n => Int64.minValue.toInt ≤ n ∧ n < 2 ^ 64
  | .double x => x.isFinite = true
  | .object members => (Members.names members).Nodup
  | _ => True

instance : (j : Json) → Decidable j.Admissible
  | .integer n => inferInstanceAs (Decidable (Int64.minValue.toInt ≤ n ∧ n < 2 ^ 64))
  | .double x => inferInstanceAs (Decidable (x.isFinite = true))
  | .object members => inferInstanceAs (Decidable (Members.names members).Nodup)
  | .null | .bool _ | .string _ | .array _ => .isTrue trivial

/-- The data is of a document, with all that occurs in it. -/
def WellFormed (j : Json) : Prop := ∀ k, Occurs k j → k.Admissible

theorem wellFormed_iff {j : Json} :
    j.WellFormed ↔ j.Admissible ∧ ∀ part ∈ j.parts, part.WellFormed :=
  forall_occurs_iff

/-! ### Large whole numbers -/

mutual

/-- The data in which a whole number that does not fit 64 bits with a sign is the string of its
digits. -/
def spelled : Json → Json
  | .integer n => if n ≤ Int64.maxValue.toInt then .integer n else .string (toString n)
  | .array items => .array (spelledItems items)
  | .object members => .object (spelledMembers members)
  | j => j
termination_by structural j => j

/-- `spelled` on the items of an array. -/
def spelledItems : List Json → List Json
  | [] => []
  | j :: rest => spelled j :: spelledItems rest
termination_by structural items => items

/-- `spelled` on the values of an object. -/
def spelledMembers : List (String × Json) → List (String × Json)
  | [] => []
  | (key, j) :: rest => (key, spelled j) :: spelledMembers rest
termination_by structural members => members

end

theorem spelledItems_eq_map (items : List Json) : spelledItems items = items.map spelled := by
  induction items with
  | nil => rfl
  | cons j rest ih => rw [spelledItems, ih, List.map_cons]

theorem spelledMembers_eq_map (members : List (String × Json)) :
    spelledMembers members = members.map fun m => (m.1, spelled m.2) := by
  induction members with
  | nil => rfl
  | cons m rest ih => rw [spelledMembers, ih, List.map_cons]

theorem map_eq_self_iff {α : Type*} {f : α → α} {xs : List α} :
    xs.map f = xs ↔ ∀ x ∈ xs, f x = x := by
  conv_lhs => rw [← List.map_id xs, List.map_map]
  exact List.map_inj_left

/-- Data comes through unchanged exactly when no large whole number occurs in it. -/
theorem spelled_eq_self_iff {j : Json} :
    j.spelled = j ↔ ∀ n, Occurs (.integer n) j → n ≤ Int64.maxValue.toInt := by
  induction j using Json.inductionOn with
  | step j ih =>
    have hparts : (∀ part ∈ j.parts, ∀ n, Occurs (.integer n) part → n ≤ Int64.maxValue.toInt) ↔
        ∀ part ∈ j.parts, part.spelled = part :=
      forall₂_congr fun part hpart => (ih part hpart).symm
    rw [forall_occurs_integer_iff, hparts]
    cases j with
    | integer n =>
      rw [and_iff_left nofun, spelled]
      constructor
      · rintro h _ ⟨⟩
        by_contra hlarge
        rw [if_neg hlarge] at h
        cases h
      · intro h
        exact if_pos (h n rfl)
    | array items =>
      rw [and_iff_right nofun, spelled, spelledItems_eq_map, array.injEq, map_eq_self_iff, parts]
    | object members =>
      rw [and_iff_right nofun, spelled, spelledMembers_eq_map, object.injEq, map_eq_self_iff, parts,
        List.forall_mem_map]
      simp only [Prod.ext_iff, true_and]
    | _ => exact iff_of_true rfl ⟨nofun, nofun⟩

end Json

namespace Value

theorem toJson_ofInteger {n : ℤ} (h : Int64.minValue.toInt ≤ n) :
    toJson (ofInteger n) = (Json.integer n).spelled := by
  rw [ofInteger, Json.spelled]
  by_cases hfits : n ≤ Int64.maxValue.toInt
  · rw [if_pos ⟨h, hfits⟩, if_pos hfits, toJson]
    rw [Int64.toInt_minValue] at h
    rw [Int64.toInt_maxValue] at hfits
    rw [Int64.toInt_ofInt_of_le h (by omega)]
  · rw [if_neg (not_and_of_not_right _ hfits), if_neg hfits, toJson, Decimal.text_ofInt]

theorem toJson_ofJson {j : Json} (h : j.WellFormed) : toJson (ofJson j) = j.spelled := by
  induction j using Json.inductionOn with
  | step j ih =>
    obtain ⟨hself, hwell⟩ := Json.wellFormed_iff.mp h
    have hparts : ∀ part ∈ j.parts, toJson (ofJson part) = part.spelled :=
      fun part hpart => ih part hpart (hwell part hpart)
    cases j with
    | null => rfl
    | bool b => rfl
    | string s => rfl
    | integer n => exact toJson_ofInteger hself.1
    | double x => exact if_pos hself
    | array items =>
      rw [ofJson, toJson, itemsToJson_eq_map, itemsOfJson_eq_map, List.map_map, Json.spelled,
        Json.spelledItems_eq_map]
      exact congrArg Json.array (List.map_congr_left hparts)
    | object members =>
      have hmembers : fieldsToJson (fieldsOfJson members) = Json.spelledMembers members := by
        rw [fieldsToJson_eq_map, fieldsOfJson_eq_map, List.map_map, Json.spelledMembers_eq_map]
        exact List.map_congr_left fun m hm =>
          Prod.ext rfl (hparts m.2 (List.mem_map_of_mem hm))
      have hkeys : (Members.names (Json.spelledMembers members)).Nodup := by
        rw [Json.spelledMembers_eq_map, Members.names, List.map_map]
        exact hself
      rw [ofJson, toJson, hmembers, Members.ofList_of_nodup hkeys, Json.spelled]

/-- **JSON data survives the value model, but for large whole numbers.** Data of a document that is
read as a value and written again is the same data, item by item and member by member in the same
order, in which every whole number that does not fit 64 bits with a sign has become the string of
its digits. So it is the data itself exactly when no such number occurs in it. -/
theorem toJson_ofJson_eq_spelled (j : Json) (h : j.WellFormed) :
    toJson (ofJson j) = j.spelled ∧
    (toJson (ofJson j) = j ↔ ∀ n, Json.Occurs (.integer n) j → n ≤ Int64.maxValue.toInt) := by
  have hspelled := toJson_ofJson h
  refine ⟨hspelled, ?_⟩
  rw [hspelled]
  exact Json.spelled_eq_self_iff

/-- A document with the largest long, the whole number behind it and a double. -/
def countsDocument : Json :=
  .object [("total", .integer 9223372036854775808),
    ("counts", .array [.integer 9223372036854775807, .double ⟨4609434218613702656⟩, .null])]

/-- The larger one of two neighbouring numbers becomes a string, and all else stays in its place. -/
theorem toJson_ofJson_eq_spelled_counts :
    countsDocument.WellFormed ∧
    toJson (ofJson countsDocument) =
      .object [("total", .string "9223372036854775808"),
        ("counts", .array [.integer 9223372036854775807, .double ⟨4609434218613702656⟩,
          .null])] := by
  have hleaf : ∀ {j : Json}, j.Admissible → j.parts = [] → j.WellFormed := by
    intro j hself hparts
    exact Json.wellFormed_iff.mpr ⟨hself, hparts ▸ List.forall_mem_nil _⟩
  have hcounts : (Json.array [.integer 9223372036854775807, .double ⟨4609434218613702656⟩,
      .null]).WellFormed := by
    refine Json.wellFormed_iff.mpr ⟨trivial, ?_⟩
    simp only [Json.parts, List.forall_mem_cons]
    exact ⟨hleaf (by decide) rfl, hleaf (by decide) rfl, hleaf trivial rfl, List.forall_mem_nil _⟩
  have hwell : countsDocument.WellFormed := by
    refine Json.wellFormed_iff.mpr ⟨by decide, ?_⟩
    simp only [countsDocument, Json.parts, List.map_cons, List.map_nil, List.forall_mem_cons]
    exact ⟨hleaf (by decide) rfl, hcounts, List.forall_mem_nil _⟩
  exact ⟨hwell, (toJson_ofJson_eq_spelled countsDocument hwell).1.trans (by decide)⟩

/-- The largest whole number of a document comes back as a string. -/
theorem toJson_ofJson_large_ne :
    (Json.integer 18446744073709551615).WellFormed ∧
    toJson (ofJson (.integer 18446744073709551615)) = .string "18446744073709551615" ∧
    ¬ ∀ j : Json, j.WellFormed → toJson (ofJson j) = j := by
  have hwell : (Json.integer 18446744073709551615).WellFormed :=
    Json.wellFormed_iff.mpr ⟨by decide, List.forall_mem_nil _⟩
  have hwritten : toJson (ofJson (.integer 18446744073709551615)) =
      .string "18446744073709551615" := by decide
  refine ⟨hwell, hwritten, fun h => ?_⟩
  have hsame := h _ hwell
  rw [hwritten] at hsame
  cases hsame

end Value

end RecordDiff
