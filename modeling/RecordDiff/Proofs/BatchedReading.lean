import RecordDiff.Attribute.Descriptor
import RecordDiff.Attribute.Document
import RecordDiff.Proofs.AttributeOutcome

/-!
# Reading attributes in one pass

A differ asks its resolver for all values of an instance at once and lays the two lists of readings
beside the names. What it finds for a name is what belongs to that name only if the resolver answers
name by name. Resolvers of described types do so by definition. Resolvers of documents take the
members out of the document as they go, which comes to the same as long as no name is asked for
twice.

## Main definitions

* `Resolver.ReadsBy` - a pass over distinct names gives for each what reading it alone gives

## Main results

* `TypeDescriptor.readsBy_resolver`, `DocumentResolver.readsBy_resolver` - the resolvers read so
* `Differ.value_readPairs` - the pairs of values, name by name
-/

namespace RecordDiff

/-- For distinct names the resolver gives one reading each, in their order, which depends on the
instance and the name alone. -/
def Resolver.ReadsBy {ι : Type*} (r : Resolver ι) (read : ι → String → Reading) : Prop :=
  ∀ x names, names.Nodup → r.readMany x names = names.map (read x)

theorem TypeDescriptor.readsBy_resolver {ι : Type*} (t : TypeDescriptor ι) :
    t.resolver.ReadsBy t.read := fun _ _ _ => rfl

namespace DocumentResolver

variable {ι : Type*}

/-- Taking a member out does not change what is read of the others. -/
theorem takeAll_of_nodup {names : List String} (h : names.Nodup) (members : List (String × Json)) :
    takeAll members names = names.map (reading members) := by
  induction names generalizing members with
  | nil => rfl
  | cons name rest ih =>
    obtain ⟨hname, hrest⟩ := List.nodup_cons.mp h
    rw [takeAll, ih hrest, List.map_cons]
    congr 1
    refine List.map_congr_left fun other hother => ?_
    have hne : name ≠ other := fun he => hname (he ▸ hother)
    rw [reading, reading, Members.get?_erase_of_ne hne]

/-- Whether an instance has members does not depend on the subject that errors name. -/
theorem membersOf_eq_ok_iff {document : ι → Except Reason Json} {x : ι} {subject : String}
    {members : List (String × Json)} :
    membersOf document x subject = .ok members ↔ document x = .ok (.object members) := by
  cases hdocument : document x with
  | error reason => simp [membersOf, hdocument]
  | ok j => cases j <;> simp [membersOf, hdocument]

/-- Attributes are read from the members of the document. -/
theorem read_of_members {d : DocumentResolver ι} {x : ι} {members : List (String × Json)}
    (h : d.document x = .ok (.object members)) : d.read x = reading members := by
  funext name
  rw [read, membersOf_eq_ok_iff.mpr h]
  rfl

theorem readsBy_resolver (d : DocumentResolver ι) : d.resolver.ReadsBy d.read := by
  intro x names hnames
  change d.readMany x names = names.map (d.read x)
  rw [readMany]
  cases hmembers : membersOf d.document x d.typeName with
  | error e => rfl
  | ok members =>
    rw [read_of_members (membersOf_eq_ok_iff.mp hmembers)]
    exact takeAll_of_nodup hnames members

end DocumentResolver

namespace Differ

variable {ι : Type*} {d : Differ ι} {read : ι → String → Reading}

/-- The attribute with its values in both instances, if it can be read from both. -/
def pairBy (read : ι → String → Reading) (first last : ι) (name : String) :
    String × Option (Value × Value) :=
  (name, bothValues (read first name) (read last name))

/-- Readings that are given name by name are paired name by name. -/
theorem value_readPairs_of_map (hread : ∀ x, d.resolver.readMany x d.active = d.active.map (read x))
    (first last : ι) :
    (d.readPairs first last).value = d.active.map (pairBy read first last) := by
  rw [readPairs, hread first, hread last, List.zip_map']
  nth_rewrite 1 [← List.map_id d.active]
  rw [List.zip_map', value_pairUp, List.map_map]
  rfl

/-- A skipped attribute does not shift the values of the others. -/
theorem value_readPairs (hread : d.resolver.ReadsBy read) (hactive : d.active.Nodup)
    (first last : ι) :
    (d.readPairs first last).value = d.active.map (pairBy read first last) :=
  value_readPairs_of_map (fun x => hread x _ hactive) first last

end Differ

end RecordDiff
