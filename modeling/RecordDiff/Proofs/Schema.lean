import RecordDiff.Proofs.DefaultOrder
import RecordDiff.Proofs.ValueOrder

/-!
# Values of one schema can be compared

Values of any two kinds cannot be compared in general, and a failure anywhere inside of them ends
the whole comparison. A schema says which values a place may hold. Of two values of one schema the
order of values always has an outcome, and so has the fallback, which knows what to do with operands
that are not there.

Schemas say where nulls may be. The order of values has no place for a null in a list or among the
keys of a map, unless the other operand has one there too, but it has one for the null value of a
key and for a null field. Fields are not required: where two records give different names at the
same place, the names decide, and the values of the fields are not looked at.

## Main definitions

* `Schema`, `Schema.Conforms` - schemas and the values of a schema
* `Comparison.Answers` - there is an outcome

## Main results

* `Comparator.valueOrder_answers` - values of one schema can be compared
* `Comparator.conforming_compare` - and so can operands that may be absent or null, by the fallback
-/

namespace RecordDiff

/-! ### Kinds without members -/

namespace Kind

/-- The kind is one whose values contain no other values, that of a scalar or of an array. -/
def isLeaf : Kind → Bool
  | .list | .map | .record _ | .any => false
  | _ => true

/-- The kind that values of a kind are compared as: longs are compared as decimals. -/
def comparedAs : Kind → Kind
  | .long => .decimal
  | kind => kind

@[simp] theorem isLeaf_comparedAs (kind : Kind) : kind.comparedAs.isLeaf = kind.isLeaf := by
  cases kind <;> rfl

end Kind

/-- Values of kinds that are compared as one kind have shapes that can be compared. -/
theorem Value.matched_of_comparedAs_eq {a b : Value} (h : a.kind.comparedAs = b.kind.comparedAs) :
    a.Matched b := by
  cases a <;> cases b <;> first | cases h; constructor | cases h

/-! ### Schemas -/

/-- What a place may hold. -/
inductive Schema where
  /-- A scalar or an array. -/
  | leaf (kind : Kind) (isLeaf : kind.isLeaf = true)
  /-- A list of items of one schema. -/
  | list (item : Schema)
  /-- A map with keys of one schema and values of another one. -/
  | map (key value : Schema)
  /-- A record with a schema for each of its names. -/
  | record (typeName : String) (fields : List (String × Schema))

/-- The value is one of the schema. Only the values of a map's keys and those of a record's fields
may be null. A record may lack fields and have them in any order. -/
inductive Schema.Conforms : Value → Schema → Prop
  | leaf {v : Value} {kind : Kind} {isLeaf : kind.isLeaf = true}
      (same : v.kind.comparedAs = kind.comparedAs) : Conforms v (.leaf kind isLeaf)
  | list {items : List Value} {item : Schema} (conforms : ∀ v ∈ items, Conforms v item) :
      Conforms (.list items) (.list item)
  | map {entries : List (Value × Value)} {key value : Schema}
      (keys : ∀ e ∈ entries, Conforms e.1 key)
      (values : ∀ e ∈ entries, ∀ v ∈ e.2.present?, Conforms v value) :
      Conforms (.map entries) (.map key value)
  | record {typeName : String} {fields : List (String × Value)} {schemas : List (String × Schema)}
      (declared : ∀ e ∈ fields, e.1 ∈ Members.names schemas)
      (values : ∀ e ∈ fields, ∀ s, Members.get? e.1 schemas = some s →
        ∀ v ∈ e.2.present?, Conforms v s) :
      Conforms (.record typeName fields) (.record typeName schemas)

namespace Schema

@[simp] theorem conforms_leaf_iff {v : Value} {kind : Kind} {isLeaf : kind.isLeaf = true} :
    Conforms v (.leaf kind isLeaf) ↔ v.kind.comparedAs = kind.comparedAs :=
  ⟨fun h => by cases h with | leaf same => exact same, .leaf⟩

@[simp] theorem conforms_list_iff {items : List Value} {item : Schema} :
    Conforms (.list items) (.list item) ↔ ∀ v ∈ items, Conforms v item :=
  ⟨fun h => by cases h with | list conforms => exact conforms, .list⟩

@[simp] theorem conforms_map_iff {entries : List (Value × Value)} {key value : Schema} :
    Conforms (.map entries) (.map key value) ↔
      (∀ e ∈ entries, Conforms e.1 key) ∧
        ∀ e ∈ entries, ∀ v ∈ e.2.present?, Conforms v value :=
  ⟨fun h => by cases h with | map keys values => exact ⟨keys, values⟩, fun h => .map h.1 h.2⟩

@[simp] theorem conforms_record_iff {typeName other : String} {fields : List (String × Value)}
    {schemas : List (String × Schema)} :
    Conforms (.record typeName fields) (.record other schemas) ↔
      typeName = other ∧ (∀ e ∈ fields, e.1 ∈ Members.names schemas) ∧
        ∀ e ∈ fields, ∀ s, Members.get? e.1 schemas = some s →
          ∀ v ∈ e.2.present?, Conforms v s := by
  constructor
  · intro h
    cases h with
    | record declared values => exact ⟨rfl, declared, values⟩
  · rintro ⟨rfl, declared, values⟩
    exact .record declared values

/-- Null is a value of no schema. -/
theorem not_conforms_null (s : Schema) : ¬ Conforms .null s := by
  intro h
  cases h with
  | @leaf _ kind isLeaf same =>
    rw [← Kind.isLeaf_comparedAs, ← same] at isLeaf
    cases isLeaf

end Schema

namespace Comparison

/-! ### Outcomes -/

/-- The comparison has an outcome. -/
def Answers (r : Comparison) : Prop := ∃ o, r = .ok o

variable {r s : Comparison}

theorem answers_ok (o : Ordering) : Answers (.ok o) := ⟨o, rfl⟩

/-- A tie-breaker has to answer only if there is a tie. -/
theorem Answers.thenWith (h : r.Answers) (hs : r = .ok .eq → s.Answers) :
    (r.thenWith fun _ => s).Answers := by
  obtain ⟨o, rfl⟩ := h
  cases o with
  | eq => exact hs rfl
  | lt => exact answers_ok .lt
  | gt => exact answers_ok .gt

end Comparison

open Comparison

variable {α β : Type*}

/-- Sequences can be compared if each element of one can be compared with each of the other. -/
theorem lexicographic_map_answers {element : Comparator α} {view : β → Option α} {us vs : List β}
    (h : ∀ u ∈ us, ∀ v ∈ vs, (elementOrder element (view u) (view v)).Answers) :
    (lexicographic element (us.map view) (vs.map view)).Answers := by
  induction us generalizing vs with
  | nil => cases vs <;> exact answers_ok _
  | cons u us ih =>
    cases vs with
    | nil => exact answers_ok .gt
    | cons v vs =>
      have hhead := h u List.mem_cons_self v List.mem_cons_self
      refine hhead.thenWith fun _ => ih fun u' hu v' hv => ?_
      exact h u' (List.mem_cons_of_mem _ hu) v' (List.mem_cons_of_mem _ hv)

namespace Comparator

open Value Schema

theorem nullSafe_answers {c : Comparator α} {a b : Option α} (nullsLast : Bool)
    (h : ∀ x ∈ a, ∀ y ∈ b, (c.compare (some x) (some y)).Answers) :
    ((c.nullSafe nullsLast).compare a b).Answers := by
  cases a with
  | none => cases b <;> exact answers_ok _
  | some x =>
    cases b with
    | none => exact answers_ok _
    | some y => exact h x rfl y rfl

/-! ### Values of one schema -/

theorem valueOrder_answers_of_leaf {a b : Value} {kind : Kind} (h : kind.isLeaf = true)
    (ha : a.kind.comparedAs = kind.comparedAs) (hb : b.kind.comparedAs = kind.comparedAs) :
    (valueOrder.compare (some a) (some b)).Answers := by
  have hleaf : a.kind.isLeaf = true := by
    rw [← Kind.isLeaf_comparedAs, ha, Kind.isLeaf_comparedAs, h]
  cases matched_of_comparedAs_eq (ha.trans hb.symm) with
  | null => cases hleaf
  | list => cases hleaf
  | map => cases hleaf
  | record => cases hleaf
  | floatArray xs ys => exact ⟨_, lexicographic_natural "element" xs ys⟩
  | doubleArray xs ys => exact ⟨_, lexicographic_natural "element" xs ys⟩
  | _ => exact answers_ok _

/-- **Values of one schema can be compared.** The induction is on the derivation that the first one
is of the schema; the schema then fixes the shape of the second one. -/
theorem valueOrder_answers {a b : Value} {s : Schema} (ha : Conforms a s) (hb : Conforms b s) :
    (valueOrder.compare (some a) (some b)).Answers := by
  induction ha generalizing b with
  | leaf ha =>
    cases hb with
    | leaf hb => exact valueOrder_answers_of_leaf ‹_› ha hb
  | list _ ih =>
    cases hb with
    | list hb =>
      rw [valueOrder_list]
      refine lexicographic_map_answers fun v hv w hw => ?_
      rw [elementOrder_present?]
      exact ih v hv (hb w hw)
  | map _ _ ihkeys ihvalues =>
    cases hb with
    | map hkeys hvalues =>
      rw [valueOrder_map]
      refine lexicographic_map_answers fun e he f hf => ?_
      refine (ihkeys e he (hkeys f hf)).thenWith fun _ => ?_
      exact nullSafe_answers false fun v hv w hw => ihvalues e he v hv (hvalues f hf w hw)
  | record declared _ ih =>
    cases hb with
    | record _ hvalues =>
      rw [valueOrder_record]
      refine lexicographic_map_answers fun e he f hf => ?_
      refine (answers_ok (Ord.compare e.1 f.1)).thenWith fun hnames => ?_
      have hname : e.1 = f.1 := Std.LawfulEqOrd.eq_of_compare (Except.ok.inj hnames)
      obtain ⟨s, hs⟩ := Members.exists_get?_of_mem_names (declared e he)
      exact nullSafe_answers false fun v hv w hw =>
        ih e he s hs v hv (hvalues f hf s (hname ▸ hs) w hw)

/-- **A comparison within one schema does not fail.** Two values of a schema can be compared by the
order of values, and operands that are of the schema, absent or null can be compared by the
fallback, wherever it puts absent ones. -/
theorem conforming_compare (s : Schema) :
    (∀ a b, Conforms a s → Conforms b s →
      ∃ o, valueOrder.compare (some a) (some b) = .ok o) ∧
    ∀ first last : Option Value, (∀ v ∈ first.bind present?, Conforms v s) →
      (∀ v ∈ last.bind present?, Conforms v s) →
      ∀ nullsLast, ∃ o, (fallback nullsLast).compare first last = .ok o := by
  refine ⟨fun a b => valueOrder_answers, fun first last hfirst hlast nullsLast => ?_⟩
  rw [fallback_compare]
  exact nullSafe_answers nullsLast fun v hv w hw => valueOrder_answers (hfirst v hv) (hlast w hw)

/-- Trips have stops with their fees, and amounts of toll for some roads. -/
def tripSchema : Schema :=
  .record "Trip"
    [("stops", .list (.record "Stop"
        [("place", .leaf .string (by decide)), ("fee", .leaf .decimal (by decide))])),
      ("tolls", .map (.leaf .string (by decide)) (.leaf .doubleArray (by decide)))]

/-- A trip with one stop, the fee of which is a long. -/
def shortTrip : Value :=
  .record "Trip"
    [("stops", .list [.record "Stop" [("place", .string "a"), ("fee", .long 1)]]),
      ("tolls", .map [(.string "A 1", .null)])]

/-- A trip with a fee that is a decimal, and with a stop that nothing is known of. -/
def longTrip : Value :=
  .record "Trip"
    [("tolls", .null),
      ("stops", .list [.record "Stop" [("fee", .decimal ⟨10, 1⟩)], .record "Stop" []])]

/-- Two trips that differ in their first fields, a trip that is missing and one that is null. -/
theorem conforming_compare_trips :
    Conforms shortTrip tripSchema ∧ Conforms longTrip tripSchema ∧
      (∃ o, valueOrder.compare (some shortTrip) (some longTrip) = .ok o) ∧
      (∀ v ∈ (some Value.null).bind present?, Conforms v tripSchema) ∧
      ∀ nullsLast, (∃ o, (fallback nullsLast).compare (some shortTrip) (some longTrip) = .ok o) ∧
        (∃ o, (fallback nullsLast).compare none (some longTrip) = .ok o) ∧
        ∃ o, (fallback nullsLast).compare (some shortTrip) (some .null) = .ok o := by
  have hshort : Conforms shortTrip tripSchema := by
    simp [shortTrip, tripSchema, Members.get?, present?, kind, Kind.comparedAs]
  have hlong : Conforms longTrip tripSchema := by
    simp [longTrip, tripSchema, Members.get?, present?, kind, Kind.comparedAs]
  have hpresent : ∀ {v : Value}, Conforms v tripSchema →
      ∀ w ∈ (some v).bind present?, Conforms w tripSchema := by
    intro v hv w hw
    obtain ⟨rfl, -⟩ := present?_eq_some_iff.mp hw
    exact hv
  have hnone : ∀ w ∈ (none : Option Value).bind present?, Conforms w tripSchema := by
    intro w hw
    cases hw
  have hnull : ∀ w ∈ (some Value.null).bind present?, Conforms w tripSchema := by
    intro w hw
    cases hw
  obtain ⟨hvalues, hoperands⟩ := conforming_compare tripSchema
  exact ⟨hshort, hlong, hvalues _ _ hshort hlong, hnull, fun nullsLast =>
    ⟨hoperands _ _ (hpresent hshort) (hpresent hlong) nullsLast,
      hoperands _ _ hnone (hpresent hlong) nullsLast,
      hoperands _ _ (hpresent hshort) hnull nullsLast⟩⟩

end Comparator

end RecordDiff
