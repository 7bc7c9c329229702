import RecordDiff.Proofs.BatchedReading
import Mathlib.Data.List.Nodup

/-!
# Names that are asked for twice

Reading many attributes at once is to give what reading each of them gives. Resolvers of described
types do so by definition. Resolvers of documents take a member out of the document when they have
read it, so that a later reading of the same name does not find it any more: it says that the
attribute is unknown. All else is as it should be. Every name is answered in its place, the answer
for the first time it is asked for is the right one, and documents without members are read name by
name.

That the keys of a document are distinct is taken for granted here. Taking out a key that is there
twice would bring the other one to light.

## Main results

* `DocumentResolver.getElem?_takeAll` - the answer for each name, by its place
* `DocumentResolver.takeAll_eq_map_iff` - when taking members out is reading them
* `Resolver.readMany_eq_read_iff` - when reading many attributes is reading each of them
-/

namespace RecordDiff

namespace DocumentResolver

variable {members : List (String × Json)} {names : List String}

/-! ### Taking members out -/

theorem length_takeAll (members : List (String × Json)) (names : List String) :
    (takeAll members names).length = names.length := by
  induction names generalizing members with
  | nil => rfl
  | cons name rest ih => rw [takeAll, List.length_cons, List.length_cons, ih]

theorem reading_eq_unknown_iff {name : String} :
    reading members name = .error (.unknown name) ↔ name ∉ Members.names members := by
  rw [reading]
  cases hget : Members.get? name members with
  | none =>
    have hout : name ∉ Members.names members := by
      intro hname
      obtain ⟨v, hv⟩ := Members.exists_get?_of_mem_names hname
      rw [hget] at hv
      cases hv
    exact iff_of_true rfl hout
  | some j =>
    constructor
    · intro h
      cases h
    · intro hout
      exact absurd (Members.mem_names_of_get? hget) hout

/-- A name that was asked for before is unknown, and every other one is read from the whole
document. -/
theorem getElem?_takeAll (hkeys : (Members.names members).Nodup) (names : List String) (i : ℕ) :
    (takeAll members names)[i]? = names[i]?.map fun name =>
      if name ∈ names.take i then .error (.unknown name) else reading members name := by
  induction names generalizing members i with
  | nil => rfl
  | cons name rest ih =>
    cases i with
    | zero => rfl
    | succ i =>
      have hrest : (Members.names (Members.erase name members)).Nodup := by
        rw [Members.names_erase]
        exact hkeys.erase name
      rw [takeAll, List.getElem?_cons_succ, List.getElem?_cons_succ, List.take_succ_cons, ih hrest]
      congr 1
      funext other
      by_cases hother : name = other
      · subst hother
        rw [if_pos List.mem_cons_self, reading, Members.get?_erase_self hkeys]
        exact ite_self _
      · have hmem : other ∈ name :: rest.take i ↔ other ∈ rest.take i := by
          simp only [List.mem_cons, Ne.symm hother, false_or]
        simp only [hmem, reading, Members.get?_erase_of_ne hother]

/-- Taking members out gives what reading them gives exactly when no name that is in the document is
asked for again. -/
theorem takeAll_eq_map_iff (hkeys : (Members.names members).Nodup) (names : List String) :
    takeAll members names = names.map (reading members) ↔
      ∀ i name, names[i]? = some name → name ∈ names.take i → name ∉ Members.names members := by
  constructor
  · intro h i name hi htake
    have hat := congrArg (fun readings => readings[i]?) h
    simp only [getElem?_takeAll hkeys, List.getElem?_map, hi, Option.map_some, if_pos htake,
      Option.some.injEq] at hat
    exact reading_eq_unknown_iff.mp hat.symm
  · intro h
    refine List.ext_getElem? fun i => ?_
    rw [getElem?_takeAll hkeys, List.getElem?_map]
    cases hi : names[i]? with
    | none => rfl
    | some name =>
      by_cases htake : name ∈ names.take i
      · rw [Option.map_some, Option.map_some, if_pos htake,
          reading_eq_unknown_iff.mpr (h i name hi htake)]
      · rw [Option.map_some, Option.map_some, if_neg htake]

/-! ### Reading many attributes -/

variable {ι : Type} {d : DocumentResolver ι} {x : ι}

theorem readMany_of_members (h : d.document x = .ok (.object members)) :
    d.readMany x = takeAll members := by
  funext names
  rw [readMany, membersOf_eq_ok_iff.mpr h]

/-- An instance without members is read name by name. -/
theorem readMany_of_no_members (h : ∀ members, d.document x ≠ .ok (.object members))
    (names : List String) : d.readMany x names = names.map (d.read x) := by
  rw [readMany]
  cases hmembers : membersOf d.document x d.typeName with
  | error e => rfl
  | ok members => exact absurd (membersOf_eq_ok_iff.mp hmembers) (h members)

end DocumentResolver

/-- **Reading many attributes is reading each of them, unless a document has to answer for a name
twice.** Resolvers of described types read name by name. Resolvers of documents with distinct keys
give one answer for each name in its place. The answer for a name that was not asked for before is
that of reading it alone; a name that was asked for before is unknown, if the instance has members
at all. So all answers are right exactly when no name that the document has is asked for again. -/
theorem Resolver.readMany_eq_read_iff {ι κ : Type} (t : TypeDescriptor κ) (d : DocumentResolver ι)
    (x : ι) (names : List String)
    (hkeys : ∀ members, d.document x = .ok (.object members) → (Members.names members).Nodup) :
    (∀ y, t.resolver.readMany y names = names.map (t.resolver.read y)) ∧
    (d.resolver.readMany x names).length = names.length ∧
    (∀ i name, names[i]? = some name → name ∉ names.take i →
      (d.resolver.readMany x names)[i]? = some (d.resolver.read x name)) ∧
    (∀ i name members, names[i]? = some name → name ∈ names.take i →
      d.document x = .ok (.object members) →
      (d.resolver.readMany x names)[i]? = some (.error (.unknown name))) ∧
    (d.resolver.readMany x names = names.map (d.resolver.read x) ↔
      ∀ members, d.document x = .ok (.object members) →
        ∀ i name, names[i]? = some name → name ∈ names.take i → name ∉ Members.names members) := by
  refine ⟨fun y => rfl, ?_⟩
  have hmany : d.resolver.readMany = d.readMany := rfl
  have hread : d.resolver.read = d.read := rfl
  rw [hmany, hread]
  by_cases hobject : ∃ members, d.document x = .ok (.object members)
  · obtain ⟨members, hmembers⟩ := hobject
    have hnodup := hkeys members hmembers
    rw [DocumentResolver.readMany_of_members hmembers, DocumentResolver.read_of_members hmembers]
    refine ⟨DocumentResolver.length_takeAll members names, ?first, ?again, ?exact⟩
    case first =>
      intro i name hi htake
      rw [DocumentResolver.getElem?_takeAll hnodup, hi, Option.map_some, if_neg htake]
    case again =>
      intro i name _ hi htake _
      rw [DocumentResolver.getElem?_takeAll hnodup, hi, Option.map_some, if_pos htake]
    case exact =>
      rw [DocumentResolver.takeAll_eq_map_iff hnodup]
      constructor
      · rintro h members' hmembers'
        obtain rfl : members = members' := by
          simpa using hmembers.symm.trans hmembers'
        exact h
      · intro h
        exact h members hmembers
  · have hnone : ∀ members, d.document x ≠ .ok (.object members) :=
      fun members h => hobject ⟨members, h⟩
    rw [DocumentResolver.readMany_of_no_members hnone]
    refine ⟨List.length_map _, ?_, fun i name members _ _ h => absurd h (hnone members), ?_⟩
    · intro i name hi _
      rw [List.getElem?_map, hi, Option.map_some]
    · exact iff_of_true rfl fun members h => absurd h (hnone members)

/-- The resolver of documents that have a name. -/
def namedDocuments : DocumentResolver Json := ⟨"Doc", [⟨"name", .string⟩], .ok⟩

/-- A document that is asked for its name twice, and for a name that it does not have. -/
theorem Resolver.readMany_eq_read_iff_named :
    (∀ members, namedDocuments.document (.object [("name", .string "a")]) = .ok (.object members) →
      (Members.names members).Nodup) ∧
    (namedDocuments.resolver.readMany (.object [("name", .string "a")]) ["size", "name", "size"] =
      ["size", "name", "size"].map
        (namedDocuments.resolver.read (.object [("name", .string "a")]))) ∧
    (namedDocuments.resolver.readMany (.object [("name", .string "a")]) ["name", "name"])[0]? =
      some (.ok (.string "a")) ∧
    (namedDocuments.resolver.readMany (.object [("name", .string "a")]) ["name", "name"])[1]? =
      some (.error (.unknown "name")) := by
  have hkeys : ∀ members,
      namedDocuments.document (.object [("name", .string "a")]) = .ok (.object members) →
        (Members.names members).Nodup := by
    rintro _ ⟨⟩
    decide
  have hagain : ∀ members,
      namedDocuments.document (.object [("name", .string "a")]) = .ok (.object members) →
        ∀ i name, ["size", "name", "size"][i]? = some name →
          name ∈ ["size", "name", "size"].take i → name ∉ Members.names members := by
    rintro _ ⟨⟩ i name hi htake
    rcases i with _ | _ | _ | i
    · cases htake
    · cases hi
      simp at htake
    · cases hi
      decide
    · cases hi
  obtain ⟨-, -, -, -, hexact⟩ :=
    Resolver.readMany_eq_read_iff (.empty "Doc" : TypeDescriptor Json) namedDocuments
      (.object [("name", .string "a")]) ["size", "name", "size"] hkeys
  obtain ⟨-, -, hfirst, hrepeated, -⟩ :=
    Resolver.readMany_eq_read_iff (.empty "Doc" : TypeDescriptor Json) namedDocuments
      (.object [("name", .string "a")]) ["name", "name"] hkeys
  exact ⟨hkeys, hexact.mpr hagain, hfirst 0 "name" rfl (by decide),
    hrepeated 1 "name" _ rfl (by decide) rfl⟩

/-- Reading a document twice for the same name at once is not what reading it twice is. -/
theorem Resolver.readMany_repeated_ne_read :
    namedDocuments.resolver.readMany (.object [("name", .string "a")]) ["name", "name"] =
      [.ok (.string "a"), .error (.unknown "name")] ∧
    ["name", "name"].map (namedDocuments.resolver.read (.object [("name", .string "a")])) =
      [.ok (.string "a"), .ok (.string "a")] ∧
    namedDocuments.resolver.readMany (.object [("name", .string "a")]) ["name", "name"] ≠
      ["name", "name"].map (namedDocuments.resolver.read (.object [("name", .string "a")])) := by
  refine ⟨rfl, rfl, fun h => ?_⟩
  have hlast := congrArg (fun readings => readings[1]?) h
  cases hlast

end RecordDiff
