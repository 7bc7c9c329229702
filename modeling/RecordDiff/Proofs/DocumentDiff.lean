import RecordDiff.Proofs.AttributeComparator
import RecordDiff.Proofs.BatchedReading
import RecordDiff.Proofs.JsonIdentity

/-!
# The difference of documents

A differ over a prototype document compares the members of other documents. Each member is compared
by the default comparator of the kind that the prototype's member suggests, which may refuse a pair
of values; but where there is a difference, it has an entry for every key whose two values are not
the same JSON data, and no other.

## Main definitions

* `changedMember` - the entry of a key that both documents have with different values

## Main results

* `Differ.diff_documents` - when documents have a difference, and what its entries are
-/

namespace RecordDiff

/-- The entry of a key that both documents have with values that are not the same. -/
def changedMember (first last : List (String × Json)) (key : String) : Option Entry :=
  match Members.get? key first, Members.get? key last with
  | some u, some v => if u = v then none else some ⟨key, .ofJson u, .ofJson v⟩
  | _, _ => none

namespace Differ

variable {ι : Type} {document : ι → Except Reason Json} {typeName : String}
  {prototype first last : ι} {p o₁ o₂ : List (String × Json)}

/-! ### Reading documents -/

/-- The values of a key that both documents have. -/
def sharedValues (o₁ o₂ : List (String × Json)) (key : String) : Option (Value × Value) :=
  match Members.get? key o₁, Members.get? key o₂ with
  | some u, some v => some (.ofJson u, .ofJson v)
  | _, _ => none

theorem bothValues_reading (o₁ o₂ : List (String × Json)) (key : String) :
    bothValues (DocumentResolver.reading o₁ key) (DocumentResolver.reading o₂ key) =
      sharedValues o₁ o₂ key := by
  rw [DocumentResolver.reading, DocumentResolver.reading, sharedValues]
  cases Members.get? key o₁ <;> cases Members.get? key o₂ <;> rfl

/-- The resolver whose attributes are those members. -/
def memberResolver (typeName : String) (document : ι → Except Reason Json)
    (p : List (String × Json)) : Resolver ι :=
  DocumentResolver.resolver ⟨typeName, p.map fun m => ⟨m.1, Kind.ofJson m.2⟩, document⟩

theorem ofPrototype_eq (hp : document prototype = .ok (.object p)) :
    ofPrototype typeName document prototype =
      .ok (ofResolver (memberResolver typeName document p)) := by
  rw [ofPrototype, DocumentResolver.ofPrototype, DocumentResolver.membersOf_eq_ok_iff.mpr hp]
  rfl

theorem names_memberResolver :
    (memberResolver typeName document p).attributes.map (·.name) = Members.names p :=
  List.map_map

theorem comparatorFor_memberResolver (hkeys : (Members.names p).Nodup) {m : String × Json}
    (hm : m ∈ p) :
    (configured (memberResolver typeName document p) []).comparatorFor m.1 =
      .forKind (Kind.ofJson m.2) false := by
  have hnames : ((memberResolver typeName document p).attributes.map (·.name)).Nodup := by
    rwa [names_memberResolver]
  have ha : ⟨m.1, Kind.ofJson m.2⟩ ∈ (memberResolver typeName document p).attributes :=
    List.mem_map_of_mem hm
  exact comparatorFor_configured hnames ha

theorem readPairs_memberResolver (hkeys : (Members.names p).Nodup)
    (hfirst : document first = .ok (.object o₁)) (hlast : document last = .ok (.object o₂)) :
    ((configured (memberResolver typeName document p) []).readPairs first last).value =
      p.map fun m => (m.1, sharedValues o₁ o₂ m.1) := by
  have hactive : (configured (memberResolver typeName document p) []).active = Members.names p :=
    names_memberResolver
  rw [value_readPairs (DocumentResolver.readsBy_resolver _) (by rwa [hactive]), hactive,
    Members.names, List.map_map]
  refine List.map_congr_left fun m _ => ?_
  rw [Function.comp_apply, pairBy, DocumentResolver.read_of_members hfirst,
    DocumentResolver.read_of_members hlast, bothValues_reading]

/-! ### Entries of documents -/

variable {d : Differ ι} {key : String} {kind : Kind} {nullsLast : Bool}

theorem answers_sharedValues_iff (hcomparator : d.comparatorFor key = .forKind kind nullsLast) :
    d.Answers (key, sharedValues o₁ o₂ key) ↔
      ∀ u v, Members.get? key o₁ = some u → Members.get? key o₂ = some v →
        ∃ o, (Comparator.forKind kind nullsLast).compare (Value.ofJson u).present?
          (Value.ofJson v).present? = .ok o := by
  rw [sharedValues]
  cases Members.get? key o₁ with
  | none => exact iff_of_true nofun nofun
  | some u =>
    cases Members.get? key o₂ with
    | none => exact iff_of_true nofun nofun
    | some v =>
      refine answers_some_iff.trans ?_
      rw [compareValues, hcomparator]
      refine ⟨fun h => ?_, fun h => h u v rfl rfl⟩
      rintro _ _ ⟨⟩ ⟨⟩
      exact h

/-- Where the values of a key can be compared, they have an entry if they are not the same. -/
theorem entryOf_eq_changedMember (hcomparator : d.comparatorFor key = .forKind kind nullsLast)
    (h : d.Answers (key, sharedValues o₁ o₂ key)) :
    d.entryOf (key, sharedValues o₁ o₂ key) = changedMember o₁ o₂ key := by
  unfold sharedValues at h ⊢
  unfold changedMember
  cases hu : Members.get? key o₁ with
  | none => rfl
  | some u =>
    cases hv : Members.get? key o₂ with
    | none => rfl
    | some v =>
      rw [hu, hv] at h
      obtain ⟨o, ho⟩ := answers_some_iff.mp h
      have hkind := ho
      rw [compareValues, hcomparator] at hkind
      have hsame : o = .eq ↔ u = v :=
        (Comparator.forKind_eq_iff hkind).trans Value.identified_ofJson_iff
      by_cases ho' : o = .eq
      · subst ho'
        exact (entryOf_of_ties (ties_some_iff.mpr ho)).trans (if_pos (hsame.mp rfl)).symm
      · exact (entryOf_of_differs ho' ho).trans (if_neg (mt hsame.mpr ho')).symm

/-- An entry is that of a key which both documents have. -/
theorem mem_of_changedMember {entry : Entry}
    (h : changedMember o₁ o₂ key = some entry) :
    entry.property = key ∧ key ∈ Members.names o₁ ∧ key ∈ Members.names o₂ := by
  unfold changedMember at h
  split at h
  · rename_i u v hu hv
    split at h
    · cases h
    · cases h
      exact ⟨rfl, Members.mem_names_of_get? hu, Members.mem_names_of_get? hv⟩
  · cases h

/-! ### The difference -/

theorem diff_memberResolver_eq_ok_iff (hkeys : (Members.names p).Nodup)
    (hfirst : document first = .ok (.object o₁)) (hlast : document last = .ok (.object o₂))
    {entries : List Entry} :
    ((configured (memberResolver typeName document p) []).diff (.separate first last)).value =
        .ok entries ↔
      (∀ m ∈ p, (configured (memberResolver typeName document p) []).Answers
        (m.1, sharedValues o₁ o₂ m.1)) ∧
      (Members.names p).filterMap (changedMember o₁ o₂) = entries := by
  rw [value_diff_separate, readPairs_memberResolver hkeys hfirst hlast, entriesOf_eq_ok_iff,
    List.forall_mem_map, List.filterMap_map, Members.names, List.filterMap_map]
  refine and_congr_right fun h => Eq.congr_left ?_
  exact List.filterMap_congr fun m hm =>
    entryOf_eq_changedMember (comparatorFor_memberResolver hkeys hm) (h m hm)

/-- **The difference of documents misses no change of a shared key.** A differ over a prototype
document with distinct keys compares two other documents. If it has a difference for them, then its
entries are, in the order of the prototype's keys, those of the keys that both documents have with
values that are not the same JSON data, and they hold these values; keys that the prototype or one
of the documents lacks have no entry. It has a difference exactly when for every key of the
prototype the values can be compared, if both documents have one, by the comparator of the kind that
the prototype's own value suggests. -/
theorem diff_documents (typeName : String) (document : ι → Except Reason Json)
    (prototype first last : ι) (p o₁ o₂ : List (String × Json))
    (hp : document prototype = .ok (.object p)) (hkeys : (Members.names p).Nodup)
    (hfirst : document first = .ok (.object o₁)) (hlast : document last = .ok (.object o₂)) :
    ∃ made, ofPrototype typeName document prototype = .ok made ∧
      (∀ entries, (made.value.diff (.separate first last)).value = .ok entries →
        entries = (Members.names p).filterMap (changedMember o₁ o₂) ∧
        ∀ entry ∈ entries, entry.property ∈ Members.names p ∧
          entry.property ∈ Members.names o₁ ∧ entry.property ∈ Members.names o₂) ∧
      ((∃ entries, (made.value.diff (.separate first last)).value = .ok entries) ↔
        ∀ m ∈ p, ∀ u v, Members.get? m.1 o₁ = some u → Members.get? m.1 o₂ = some v →
          ∃ o, (Comparator.forKind (Kind.ofJson m.2) false).compare
            (Value.ofJson u).present? (Value.ofJson v).present? = .ok o) := by
  refine ⟨_, ofPrototype_eq hp, ?entries, ?answers⟩
  case entries =>
    intro entries h
    obtain ⟨-, rfl⟩ := (diff_memberResolver_eq_ok_iff hkeys hfirst hlast).mp h
    refine ⟨rfl, fun entry hentry => ?_⟩
    obtain ⟨key, hkey, hchanged⟩ := List.mem_filterMap.mp hentry
    obtain ⟨rfl, hmem⟩ := mem_of_changedMember hchanged
    exact ⟨hkey, hmem⟩
  case answers =>
    constructor
    · rintro ⟨entries, h⟩ m hm
      have hanswers := ((diff_memberResolver_eq_ok_iff hkeys hfirst hlast).mp h).1 m hm
      exact (answers_sharedValues_iff (comparatorFor_memberResolver hkeys hm)).mp hanswers
    · intro h
      refine ⟨_, (diff_memberResolver_eq_ok_iff hkeys hfirst hlast).mpr ⟨fun m hm => ?_, rfl⟩⟩
      exact (answers_sharedValues_iff (comparatorFor_memberResolver hkeys hm)).mpr (h m hm)

/-- The members of an empty file entry. -/
def blankFile : List (String × Json) :=
  [("name", .string ""), ("size", .integer 0), ("ratio", .double ⟨0⟩), ("tags", .array [])]

/-- The members of a file entry without a ratio and with a size that no double holds. -/
def largeFile : List (String × Json) :=
  [("size", .integer 9007199254740993), ("name", .string "a"), ("tags", .array [.integer 1]),
    ("owner", .null)]

/-- The same with a size that is one less. -/
def smallerFile : List (String × Json) :=
  [("name", .string "a"), ("size", .integer 9007199254740992), ("ratio", .double ⟨0⟩),
    ("tags", .array [.integer 1])]

/-- Two file entries differ in their sizes only, as far as they have the same keys. -/
theorem diff_documents_files :
    (Members.names blankFile).Nodup ∧
      ∃ made, ofPrototype "File" Except.ok (.object blankFile) = .ok made ∧
        (made.value.diff (.separate (.object largeFile) (.object smallerFile))).value =
          .ok [⟨"size", .long 9007199254740993, .long 9007199254740992⟩] := by
  have hkeys : (Members.names blankFile).Nodup := by decide +kernel
  have hcomparable : ∀ m ∈ blankFile, ∀ u v, Members.get? m.1 largeFile = some u →
      Members.get? m.1 smallerFile = some v →
        ∃ o, (Comparator.forKind (Kind.ofJson m.2) false).compare (Value.ofJson u).present?
          (Value.ofJson v).present? = .ok o := by
    simp only [blankFile, List.forall_mem_cons]
    refine ⟨?name, ?size, ?ratio, ?tags, List.forall_mem_nil _⟩
    -- The large file has no ratio.
    case ratio => nofun
    all_goals
      rintro _ _ ⟨⟩ ⟨⟩
      exact ⟨_, rfl⟩
  obtain ⟨made, hmade, hentries, hanswers⟩ := diff_documents "File" Except.ok (.object blankFile)
    (.object largeFile) (.object smallerFile) blankFile largeFile smallerFile rfl hkeys rfl rfl
  obtain ⟨entries, h⟩ := hanswers.mpr hcomparable
  obtain ⟨rfl, -⟩ := hentries entries h
  exact ⟨hkeys, made, hmade, h⟩

end Differ

end RecordDiff
