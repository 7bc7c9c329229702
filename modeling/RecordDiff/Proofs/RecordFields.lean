import RecordDiff.Proofs.FirstOccurrences
import RecordDiff.Proofs.JsonRoundTrip

/-!
# Fields of records

The fields of a record are a list, and nothing in its type keeps a name from being there twice. Two
names that are the same would do harm in three ways: the second one could not be looked up, records
are compared place by place, and writing a record as an object sets one member over the other. There
are two ways to come by a record, and neither lets this happen. Setting a field looks for its name
first, and an object has every key once.

So a record that is given its fields one after the other has each name at its first place and with
its last value, and so have the objects of a document. Written as JSON, a record is the object of
its fields, each with its name, in order, and wherever the record stands in a value, that object
stands in the JSON form of the value.

## Main definitions

* `Record.ofFields` - a record that is given its fields one after the other
* `Record.Keeps` - first places and last values
* `Json.DistinctKeys` - no object has a key twice, at any depth
* `Value.Occurs` - a value inside a value
* `Value.Built` - the values that can be built, at any depth

## Main results

* `Record.keeps_ofFields` - what becomes of the fields that are given
* `Value.occurs_ofJson_iff` - what occurs in the value of a document
* `Value.Built.distinct` - no record has a name twice
* `Value.records_keep_fields` - all of this together
-/

namespace RecordDiff

/-! ### Members that are set one after the other -/

namespace Members

variable {α : Type*}

/-- The names keep their first places. -/
theorem names_ofList (ms : List (String × α)) : names (ofList ms) = (names ms).eraseDups := by
  induction ms using List.reverseRecOn with
  | nil => rfl
  | append_singleton ms m ih =>
    have hset : ofList (ms ++ [m]) = set m.1 m.2 (ofList ms) := by
      rw [ofList, List.foldl_append]
      rfl
    rw [hset, names_set, ih, names_append, names_cons, names_nil, eraseDups_concat]
    simp only [List.mem_eraseDups]

/-- The names have their last values. -/
theorem get?_ofList_eq_some_iff {name : String} {v : α} {ms : List (String × α)} :
    get? name (ofList ms) = some v ↔ LastGiven ms name v := by
  rw [get?_ofList, ← find?_reverse_eq_some_iff]
  simp only [beq_eq_decide]

theorem nodup_names_ofList (ms : List (String × α)) : (names (ofList ms)).Nodup := by
  rw [names_ofList]
  exact nodup_eraseDups _

theorem get?_eq_none_iff {name : String} {ms : List (String × α)} :
    get? name ms = none ↔ name ∉ names ms := by
  constructor
  · intro hnone hname
    obtain ⟨v, hv⟩ := exists_get?_of_mem_names hname
    rw [hnone] at hv
    cases hv
  · intro hname
    cases hget : get? name ms with
    | none => rfl
    | some v => exact absurd (mem_names_of_get? hget) hname

/-- Every member that is there was given. -/
theorem mem_of_mem_ofList {m : String × α} {ms : List (String × α)} (h : m ∈ ofList ms) :
    m ∈ ms := by
  obtain ⟨before, name, after, rfl, hname, -⟩ :=
    get?_ofList_eq_some_iff.mp (get?_of_mem (nodup_names_ofList ms) h)
  rw [eq_of_beq hname]
  simp

/-- Values may be changed before the members are set or after. -/
theorem ofList_map {β : Type*} (f : α → β) (ms : List (String × α)) :
    ofList (ms.map fun m => (m.1, f m.2)) = (ofList ms).map fun m => (m.1, f m.2) := by
  have hset : ∀ (name : String) (v : α) (built : List (String × α)),
      set name (f v) (built.map fun m => (m.1, f m.2)) =
        (set name v built).map fun m => (m.1, f m.2) := by
    intro name v built
    induction built with
    | nil => rfl
    | cons m rest ih => by_cases h : m.1 = name <;> simp [set, h, ih]
  induction ms using List.reverseRecOn with
  | nil => rfl
  | append_singleton ms m ih =>
    simp only [ofList, List.map_append, List.map_cons, List.map_nil, List.foldl_append,
      List.foldl_cons, List.foldl_nil] at ih ⊢
    rw [ih, hset]

end Members

namespace Record

/-- A record that is given its fields one after the other. -/
def ofFields (typeName : String) (given : List (String × Value)) : Record :=
  given.foldl (fun r f => r.set f.1 f.2) (empty typeName)

/-- The record has each name that it was given once, at its first place, and with its last value. -/
structure Keeps (r : Record) (given : List (String × Value)) : Prop where
  distinct : (Members.names r.fields).Nodup
  order : Members.names r.fields = (Members.names given).eraseDups
  value : ∀ name v, r.get? name = some v ↔ LastGiven given name v
  missing : ∀ name, r.get? name = none ↔ name ∉ Members.names given

theorem ofFields_eq (typeName : String) (given : List (String × Value)) :
    ofFields typeName given = ⟨typeName, Members.ofList given⟩ := by
  -- Setting leaves the type name alone, whatever record it starts from.
  have hfold : ∀ r : Record, given.foldl (fun r f => r.set f.1 f.2) r =
      ⟨r.typeName, given.foldl (fun built f => Members.set f.1 f.2 built) r.fields⟩ := by
    induction given with
    | nil => exact fun r => rfl
    | cons f rest ih => exact fun r => ih (r.set f.1 f.2)
  exact hfold (empty typeName)

theorem keeps_ofFields (typeName : String) (given : List (String × Value)) :
    (ofFields typeName given).Keeps given := by
  rw [ofFields_eq]
  refine ⟨Members.nodup_names_ofList given, Members.names_ofList given,
    fun name v => Members.get?_ofList_eq_some_iff, fun name => ?_⟩
  rw [get?, Members.get?_eq_none_iff, Members.names_ofList, List.mem_eraseDups]

end Record

/-! ### Documents -/

namespace Json

/-- The objects inside the data have every key once. -/
def DistinctKeys (j : Json) : Prop :=
  ∀ members, Occurs (.object members) j → (Members.names members).Nodup

/-- Data in which repeated keys were set over each other has distinct keys. -/
theorem distinctKeys_merged (j : Json) : j.merged.DistinctKeys := by
  induction j using Json.inductionOn with
  | step j ih =>
    intro members h
    cases j with
    | array items =>
      rw [merged, mergedItems_eq_map] at h
      cases h with
      | part hpart h =>
        obtain ⟨item, hitem, rfl⟩ := List.mem_map.mp hpart
        exact ih item hitem members h
    | object ms =>
      rw [merged, mergedMembers_eq_map] at h
      cases h with
      | self => exact Members.nodup_names_ofList _
      | part hpart h =>
        obtain ⟨m, hm, rfl⟩ := List.mem_map.mp hpart
        obtain ⟨given, hgiven, rfl⟩ := List.mem_map.mp (Members.mem_of_mem_ofList hm)
        exact ih given.2 (List.mem_map_of_mem hgiven) members h
    | _ =>
      cases h with
      | part hpart _ => cases hpart

end Json

namespace Value

/-- The value `w` occurs in the value, at some depth. -/
inductive Occurs (w : Value) : Value → Prop
  | self : Occurs w w
  | member {v m : Value} (hmember : m ∈ v.members) (h : Occurs w m) : Occurs w v

/-- The values of the parts of JSON data are what its value contains. -/
theorem members_ofJson (j : Json) : (ofJson j).members = j.parts.map ofJson := by
  cases j with
  | integer n =>
    rw [ofJson, ofInteger]
    split <;> rfl
  | array items => rw [ofJson, members, itemsOfJson_eq_map, Json.parts]
  | object ms =>
    rw [ofJson, members, fieldsOfJson_eq_map, Json.parts, List.map_map, List.map_map]
    rfl
  | _ => rfl

/-- What occurs in the value of a document is the value of what occurs in the document. -/
theorem occurs_ofJson_iff {w : Value} {j : Json} :
    Occurs w (ofJson j) ↔ ∃ k, Json.Occurs k j ∧ w = ofJson k := by
  constructor
  · intro h
    induction j using Json.inductionOn with
    | step j ih =>
      cases h with
      | self => exact ⟨j, .self, rfl⟩
      | member hmember h =>
        rw [members_ofJson] at hmember
        obtain ⟨part, hpart, rfl⟩ := List.mem_map.mp hmember
        obtain ⟨k, hk, hw⟩ := ih part hpart h
        exact ⟨k, .part hpart hk, hw⟩
  · rintro ⟨k, hk, rfl⟩
    induction hk with
    | self => exact .self
    | part hpart _ ih =>
      refine .member ?_ ih
      rw [members_ofJson]
      exact List.mem_map_of_mem hpart

/-- The records in the value of a document are the objects of the document. -/
theorem exists_object_of_occurs {r : Record} {j : Json} (h : Occurs r.toValue (ofJson j)) :
    ∃ members, Json.Occurs (.object members) j ∧ r = ⟨"", fieldsOfJson members⟩ := by
  obtain ⟨k, hk, hr⟩ := occurs_ofJson_iff.mp h
  cases k with
  | object members =>
    rw [Record.toValue, ofJson, record.injEq] at hr
    exact ⟨members, hk, by rw [← hr.1, ← hr.2]⟩
  | integer n =>
    rw [Record.toValue, ofJson, ofInteger] at hr
    split at hr <;> cases hr
  | _ => cases hr

theorem names_fieldsOfJson (members : List (String × Json)) :
    Members.names (fieldsOfJson members) = Members.names members := by
  rw [fieldsOfJson_eq_map, Members.names, Members.names, List.map_map]
  rfl

/-- An object with distinct keys is the record that is given its members one after the other. -/
theorem ofFields_fieldsOfJson {members : List (String × Json)}
    (h : (Members.names members).Nodup) :
    Record.ofFields "" (fieldsOfJson members) = ⟨"", fieldsOfJson members⟩ := by
  rw [Record.ofFields_eq, Members.ofList_of_nodup (by rwa [names_fieldsOfJson])]

/-- A written object is the record that is given its members one after the other, repeated keys
included. -/
theorem ofJson_merged_object (members : List (String × Json)) :
    ofJson (Json.object members).merged =
      (Record.ofFields "" (fieldsOfJson (Json.mergedMembers members))).toValue := by
  rw [Json.merged, ofJson, Record.ofFields_eq, fieldsOfJson_eq_map, fieldsOfJson_eq_map,
    Members.ofList_map]
  rfl

/-! ### Values that can be built -/

/-- The values that can be built. A record is given its fields one after the other, or it comes with
a document; all other values may contain whatever can be built. -/
inductive Built : Value → Prop
  | record (typeName : String) {given : List (String × Value)} (h : ∀ f ∈ given, Built f.2) :
      Built (Record.ofFields typeName given).toValue
  | document {j : Json} (h : j.DistinctKeys) : Built (ofJson j)
  | other {v : Value} (hrecord : v.asRecord? = none) (h : ∀ m ∈ v.members, Built m) : Built v

/-- No record inside the value has a name twice. -/
def DistinctFields (v : Value) : Prop :=
  ∀ r : Record, Occurs r.toValue v → (Members.names r.fields).Nodup

theorem occurs_iff {w v : Value} : Occurs w v ↔ w = v ∨ ∃ m ∈ v.members, Occurs w m := by
  constructor
  · intro h
    cases h with
    | self => exact Or.inl rfl
    | member hmember h => exact Or.inr ⟨_, hmember, h⟩
  · rintro (rfl | ⟨m, hmember, h⟩)
    · exact .self
    · exact .member hmember h

theorem asRecord?_toValue (r : Record) : r.toValue.asRecord? = some r := rfl

theorem toValue_inj {r s : Record} : r.toValue = s.toValue ↔ r = s := by
  refine ⟨fun h => ?_, congrArg Record.toValue⟩
  have hsome := congrArg asRecord? h
  rwa [asRecord?_toValue, asRecord?_toValue, Option.some.injEq] at hsome

theorem DistinctFields.of_mem_members {v m : Value} (h : v.DistinctFields) (hm : m ∈ v.members) :
    m.DistinctFields := fun r hr => h r (.member hm hr)

/-- Values that can be built have records with distinct names only. -/
theorem Built.distinct {v : Value} (h : v.Built) : v.DistinctFields := by
  induction h with
  | @record typeName given _ ih =>
    intro r hr
    -- The record itself has distinct names because they were set, and what is inside it was given.
    rcases occurs_iff.mp hr with heq | ⟨m, hm, hr⟩
    · rw [toValue_inj.mp heq]
      exact (Record.keeps_ofFields typeName given).distinct
    · rw [Record.ofFields_eq] at hm
      obtain ⟨f, hf, rfl⟩ := List.mem_map.mp hm
      exact ih f (Members.mem_of_mem_ofList hf) r hr
  | document hkeys =>
    intro r hr
    obtain ⟨members, hobject, rfl⟩ := exists_object_of_occurs hr
    rw [names_fieldsOfJson]
    exact hkeys members hobject
  | other hrecord _ ih =>
    intro r hr
    rcases occurs_iff.mp hr with rfl | ⟨m, hm, hr⟩
    · rw [asRecord?_toValue] at hrecord
      cases hrecord
    · exact ih m hm r hr

/-! ### Records as JSON -/

/-- A record with distinct names is the object of its fields. -/
theorem toJson_toValue {r : Record} (h : (Members.names r.fields).Nodup) :
    toJson r.toValue = .object (r.fields.map fun f => (f.1, toJson f.2)) := by
  have hnames : (Members.names (fieldsToJson r.fields)).Nodup := by
    rw [fieldsToJson_eq_map, Members.names, List.map_map]
    exact h
  rw [Record.toValue, toJson, Members.ofList_of_nodup hnames, fieldsToJson_eq_map]

/-- What a value contains is written where it stands. -/
theorem occurs_toJson {w v : Value} (hv : v.DistinctFields) (h : Occurs w v) :
    Json.Occurs (toJson w) (toJson v) := by
  induction h with
  | self => exact .self
  | @member v m hm _ ih =>
    have hw := ih (hv.of_mem_members hm)
    cases v with
    | list items =>
      rw [toJson, itemsToJson_eq_map]
      exact .part (List.mem_map_of_mem hm) hw
    | map entries =>
      rw [toJson, entriesToJson_eq_map]
      -- Keys and values are two levels down: an entry is an array of its own.
      rcases List.mem_append.mp hm with hm | hm
      · obtain ⟨e, he, rfl⟩ := List.mem_map.mp hm
        exact .part (List.mem_map_of_mem he) (.part (List.mem_cons_self ..) hw)
      · obtain ⟨e, he, rfl⟩ := List.mem_map.mp hm
        exact .part (List.mem_map_of_mem he)
          (.part (List.mem_cons_of_mem _ (List.mem_singleton_self _)) hw)
    | record typeName fields =>
      have hobject := toJson_toValue (hv ⟨typeName, fields⟩ .self)
      obtain ⟨f, hf, rfl⟩ := List.mem_map.mp hm
      rw [Record.toValue] at hobject
      rw [hobject]
      exact .part (List.mem_map.mpr ⟨_, List.mem_map_of_mem hf, rfl⟩) hw
    | _ => cases hm

/-- **Records neither hold a name twice nor lose a field.** A record that is given its fields one
after the other has each name once, in the order in which the names were first given, with the value
that was given last. The records in the value of a document are its objects, member by member; when
a text repeats a key, the object is the record that is given all of its members. So wherever a record
stands in a value that can be built, its JSON form is the object of its fields in their order, and
this object stands in the JSON form of the value. -/
theorem records_keep_fields :
    (∀ (typeName : String) (given : List (String × Value)),
      (Record.ofFields typeName given).typeName = typeName ∧
      (Record.ofFields typeName given).Keeps given) ∧
    (∀ j : Json, j.DistinctKeys → ∀ r : Record, Occurs r.toValue (ofJson j) →
      ∃ members, Json.Occurs (.object members) j ∧ r = ⟨"", fieldsOfJson members⟩ ∧
        r.Keeps (fieldsOfJson members)) ∧
    (∀ j : Json, j.merged.DistinctKeys) ∧
    (∀ members, ofJson (Json.object members).merged =
      (Record.ofFields "" (fieldsOfJson (Json.mergedMembers members))).toValue) ∧
    (∀ v : Value, v.Built → ∀ r : Record, Occurs r.toValue v →
      (Members.names r.fields).Nodup ∧
      toJson r.toValue = .object (r.fields.map fun f => (f.1, toJson f.2)) ∧
      Json.Occurs (toJson r.toValue) (toJson v)) := by
  refine ⟨fun typeName given => ?given, fun j hkeys r hr => ?document, Json.distinctKeys_merged,
    ofJson_merged_object, fun v hv r hr => ?written⟩
  case given =>
    refine ⟨?_, Record.keeps_ofFields typeName given⟩
    rw [Record.ofFields_eq]
  case document =>
    obtain ⟨members, hobject, rfl⟩ := exists_object_of_occurs hr
    refine ⟨members, hobject, rfl, ?_⟩
    rw [← ofFields_fieldsOfJson (hkeys members hobject)]
    exact Record.keeps_ofFields "" _
  case written =>
    have hdistinct := hv.distinct
    exact ⟨hdistinct r hr, toJson_toValue (hdistinct r hr), occurs_toJson hdistinct hr⟩

/-- The fields of an address, with two cities. -/
def addressFields : List (String × Value) :=
  [("city", .string "Paris"), ("zip", .int 75001), ("city", .string "Lyon")]

/-- A document with an object in an array, both with a city. -/
def routeDocument : Json :=
  .object [("city", .string "Paris"), ("stops", .array [.null, .object [("city", .string "Lyon")]])]

/-- The second city takes the place of the first one, and the stop of a route is found inside it. -/
theorem records_keep_fields_addresses :
    (Record.ofFields "Address" addressFields).Keeps addressFields ∧
    routeDocument.DistinctKeys ∧
    Occurs (Record.toValue ⟨"", [("city", .string "Lyon")]⟩) (ofJson routeDocument) ∧
    (∃ members, Json.Occurs (.object members) routeDocument ∧
      (⟨"", [("city", .string "Lyon")]⟩ : Record) = ⟨"", fieldsOfJson members⟩) ∧
    Built (.list [.null, (Record.ofFields "Address" addressFields).toValue]) ∧
    toJson (Record.ofFields "Address" addressFields).toValue =
      .object [("city", .string "Lyon"), ("zip", .integer 75001)] ∧
    Json.Occurs (toJson (Record.ofFields "Address" addressFields).toValue)
      (toJson (.list [.null, (Record.ofFields "Address" addressFields).toValue])) := by
  have hkeys : routeDocument.DistinctKeys := Json.distinctKeys_merged routeDocument
  have hstops : list [.null, .record "" [("city", .string "Lyon")]] ∈
      (ofJson routeDocument).members :=
    List.mem_cons_of_mem _ (List.mem_singleton_self _)
  have hstop : Occurs (Record.toValue ⟨"", [("city", .string "Lyon")]⟩) (ofJson routeDocument) :=
    .member hstops (.member (List.mem_cons_of_mem _ (List.mem_singleton_self _)) .self)
  have hleaf : ∀ {v : Value}, v.asRecord? = none → v.members = [] → Built v :=
    fun hrecord hmembers => .other hrecord (hmembers ▸ List.forall_mem_nil _)
  have haddress : Built (Record.ofFields "Address" addressFields).toValue := by
    refine .record "Address" ?_
    simp only [addressFields, List.forall_mem_cons]
    exact ⟨hleaf rfl rfl, hleaf rfl rfl, hleaf rfl rfl, List.forall_mem_nil _⟩
  have hbuilt : Built (.list [.null, (Record.ofFields "Address" addressFields).toValue]) := by
    refine .other rfl ?_
    simp only [members, List.forall_mem_cons]
    exact ⟨hleaf rfl rfl, haddress, List.forall_mem_nil _⟩
  obtain ⟨hgiven, hdocument, -, -, hwritten⟩ := records_keep_fields
  obtain ⟨stop, hobject, heq, -⟩ := hdocument routeDocument hkeys _ hstop
  obtain ⟨-, hjson, hplace⟩ := hwritten _ hbuilt _
    (.member (List.mem_cons_of_mem _ (List.mem_singleton_self _)) .self)
  exact ⟨(hgiven "Address" addressFields).2, hkeys, hstop, ⟨stop, hobject, heq⟩, hbuilt, hjson,
    hplace⟩

end Value

end RecordDiff
