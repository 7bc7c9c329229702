import RecordDiff.Proofs.Blueprint

/-!
# Chains of inheritance

A type that inherits a type that inherits another one, and so on, is a chain. Each type of the chain
declares attributes of its own and inherits the next type once, before, between or after these
declarations. To the instances of the type at the head the chain is a list of levels, the most
derived first, each with the attributes that are declared there and the projection that leads to it.

An attribute is looked up along the levels as a method is in a class hierarchy: the first level that
declares the name decides, by its last declaration of the name, and what is read is read from the
instance that the projection leads to. The order of the attributes goes the other way, from the root
to the head, as if all levels had been declared one after the other.

Nothing in the list of levels tells where among the declarations of a level the call to inherit
stood, and the descriptor depends on the list alone.

## Main definitions

* `Chain`, `Chain.descriptor` - types that inherit one another, and what is built for the head
* `Chain.Level`, `Chain.levels` - what the instances of the head see of a chain
* `Chain.MostDerived` - the declaration that the lookup of a name ends at
* `Chain.Rearranged` - the same chain with calls to inherit at other places

## Main results

* `Chain.names_blueprint`, `Chain.supplier?_blueprint` - the order of names and the lookup
* `Chain.attributes_descriptor` - the levels decide every attribute
* `Chain.descriptor_resolves` - names, kinds, readers, and the place of the calls
-/

namespace RecordDiff

universe u

namespace Declaration

variable {ι : Type u}

/-- The last declaration of a name. -/
def last? (name : String) (own : List (Declaration ι)) : Option (Declaration ι) :=
  own.reverse.find? fun s => s.name = name

theorem last?_append (name : String) (before after : List (Declaration ι)) :
    last? name (before ++ after) = (last? name after).or (last? name before) := by
  rw [last?, List.reverse_append, List.find?_append]
  rfl

theorem last?_eq_none_iff {name : String} {own : List (Declaration ι)} :
    last? name own = none ↔ name ∉ own.map (·.name) := by
  simp [last?]

theorem last?_eq_some_iff {name : String} {own : List (Declaration ι)} {s : Declaration ι} :
    last? name own = some s ↔ s.name = name ∧
      ∃ earlier later, own = earlier ++ s :: later ∧ ∀ t ∈ later, t.name ≠ name := by
  rw [last?, List.find?_eq_some_iff_append]
  constructor
  · rintro ⟨hname, passed, left, hown, hpassed⟩
    refine ⟨by simpa using hname, left.reverse, passed.reverse, ?_, fun t ht => ?_⟩
    · have hreverse := congrArg List.reverse hown
      simpa using hreverse
    · simpa using hpassed t (List.mem_reverse.mp ht)
  · rintro ⟨hname, earlier, later, rfl, hlater⟩
    refine ⟨by simpa using hname, later.reverse, earlier.reverse, by simp, fun t ht => ?_⟩
    simpa using hlater t (List.mem_reverse.mp ht)

end Declaration

/-! ### Declaring a list of attributes -/

namespace Blueprint

variable {ι : Type u}

/-- Declares attributes one after the other. -/
def declareAll (b : Blueprint ι) (own : List (Declaration ι)) : Blueprint ι :=
  own.foldl declare b

theorem typeName_declareAll (b : Blueprint ι) (own : List (Declaration ι)) :
    (b.declareAll own).typeName = b.typeName := by
  induction own generalizing b with
  | nil => rfl
  | cons s own ih => exact ih (b.declare s)

theorem names_declareAll (b : Blueprint ι) (own : List (Declaration ι)) :
    (b.declareAll own).names = b.names ++ own.map (·.name) := by
  induction own generalizing b with
  | nil => exact (List.append_nil b.names).symm
  | cons s own ih =>
    show ((b.declare s).declareAll own).names = _
    rw [ih, names, List.append_assoc, List.map_cons, List.singleton_append]

theorem supplier?_declareAll (name : String) (b : Blueprint ι) (own : List (Declaration ι)) :
    (b.declareAll own).supplier? name = (Declaration.last? name own).or (b.supplier? name) := by
  induction own generalizing b with
  | nil => rfl
  | cons s own ih =>
    show ((b.declare s).declareAll own).supplier? name = _
    rw [ih, ← List.singleton_append, Declaration.last?_append, Option.or_assoc, supplier?]
    by_cases hname : s.name = name <;> simp [Declaration.last?, hname]

/-- Declaring marks nothing. -/
theorem marked_declareAll {name : String} {b : Blueprint ι} (h : b.marked name = false)
    (own : List (Declaration ι)) : (b.declareAll own).marked name = false := by
  induction own generalizing b with
  | nil => exact h
  | cons s own ih =>
    refine ih ?_
    rw [marked, h, Bool.and_false]

end Blueprint

/-! ### Chains -/

/-- A type that only declares attributes, or one that inherits a chain between two lists of
declarations of its own. -/
inductive Chain : Type u → Type (u + 1) where
  | root (typeName : String) (own : List (Declaration ι)) : Chain ι
  | derived (typeName : String) (before : List (Declaration ι)) (parent : Chain π)
      (project : ι → π) (after : List (Declaration ι)) : Chain ι

namespace Chain

open TypeDescriptor (namesOf)

/-! ### Levels -/

/-- A type that the instances are projected to, with its own declarations in order. -/
structure Level (ι : Type u) : Type (u + 1) where
  {target : Type u}
  project : ι → target
  own : List (Declaration target)

namespace Level

variable {ι π : Type u}

/-- The names that are declared at a level. -/
def names (l : Level ι) : List String := l.own.map (·.name)

/-- The level as the instances see it that `project` leads from. -/
def along (project : ι → π) (l : Level π) : Level ι := ⟨l.project ∘ project, l.own⟩

/-- The last declaration of a name at a level, for the instances that are projected there. -/
def supplier? (name : String) (l : Level ι) : Option (Declaration ι) :=
  (Declaration.last? name l.own).map (·.along l.project)

/-- No projection leads to the head. -/
theorem supplier?_id (name : String) (own : List (Declaration ι)) :
    supplier? name ⟨id, own⟩ = Declaration.last? name own := by
  rw [supplier?]
  cases Declaration.last? name own <;> rfl

theorem supplier?_along (project : ι → π) (name : String) (l : Level π) :
    (l.along project).supplier? name = (l.supplier? name).map (·.along project) := by
  rw [supplier?, supplier?, Option.map_map]
  rfl

theorem supplier?_eq_none_iff {name : String} {l : Level ι} :
    l.supplier? name = none ↔ name ∉ l.names := by
  rw [supplier?, Option.map_eq_none_iff, Declaration.last?_eq_none_iff, names]

end Level

/-- The calls that build the descriptor of the type at the head. -/
def blueprint : {ι : Type u} → Chain ι → Blueprint ι
  | _, .root typeName own => (Blueprint.empty typeName).declareAll own
  | _, .derived typeName before parent project after =>
    (((Blueprint.empty typeName).declareAll before).inherit parent.blueprint project).declareAll
      after

/-- The levels from the head to the root. -/
def levels : {ι : Type u} → Chain ι → List (Level ι)
  | _, .root _ own => [⟨id, own⟩]
  | _, .derived _ before parent project after =>
    ⟨id, before ++ after⟩ :: parent.levels.map (·.along project)

/-- The type at the head. -/
def typeName : {ι : Type u} → Chain ι → String
  | _, .root typeName _ => typeName
  | _, .derived typeName _ _ _ _ => typeName

/-- Two chains with the same types and the same declarations in the same order, where the calls to
inherit may stand at other places among the declarations. -/
inductive Rearranged : {ι : Type u} → Chain ι → Chain ι → Prop where
  | root (typeName : String) (own : List (Declaration ι)) :
      Rearranged (.root typeName own) (.root typeName own)
  | derived (typeName : String) (project : ι → π) {before after before' after' : List (Declaration ι)}
      {parent parent' : Chain π} (hown : before ++ after = before' ++ after')
      (hparent : Rearranged parent parent') :
      Rearranged (.derived typeName before parent project after)
        (.derived typeName before' parent' project after')

variable {ι π : Type u}

/-- The descriptor of the type at the head. -/
def descriptor (c : Chain ι) : TypeDescriptor ι := c.blueprint.build

/-- The names that are declared, from the root to the head. -/
def declaredNames (c : Chain ι) : List String := c.levels.reverse.flatMap Level.names

/-- The declaration `s` is the last one of the name at its level, and no level that is more derived
declares the name. -/
structure MostDerived (c : Chain ι) (name : String) (level : Level ι)
    (s : Declaration level.target) : Prop where
  name_eq : s.name = name
  last : ∃ earlier later, level.own = earlier ++ s :: later ∧ ∀ t ∈ later, t.name ≠ name
  first : ∃ derived base, c.levels = derived ++ level :: base ∧ ∀ l ∈ derived, name ∉ l.names

/-! ### The lookup along the levels -/

theorem typeName_descriptor (c : Chain ι) : c.descriptor.typeName = c.typeName := by
  rw [descriptor, Blueprint.typeName_build]
  cases c with
  | root typeName own => exact Blueprint.typeName_declareAll _ own
  | derived typeName before parent project after =>
    rw [blueprint, Blueprint.typeName_declareAll]
    exact Blueprint.typeName_declareAll _ before

theorem declaredNames_derived (typeName : String) (before : List (Declaration ι))
    (parent : Chain π) (project : ι → π) (after : List (Declaration ι)) :
    (derived typeName before parent project after).declaredNames =
      parent.declaredNames ++ (before ++ after).map (·.name) := by
  have hparent : (parent.levels.map (·.along project)).reverse.flatMap Level.names =
      parent.levels.reverse.flatMap Level.names := by
    rw [← List.map_reverse, List.flatMap_map]
    rfl
  rw [declaredNames, levels, List.reverse_cons, List.flatMap_append, hparent,
    List.flatMap_singleton]
  rfl

theorem names_blueprint (c : Chain ι) : c.blueprint.names = c.declaredNames := by
  induction c with
  | root typeName own =>
    rw [blueprint, Blueprint.names_declareAll]
    exact (List.append_nil _).symm
  | derived typeName before parent project after ih =>
    rw [blueprint, Blueprint.names_declareAll, Blueprint.names, Blueprint.names_declareAll, ih,
      declaredNames_derived, Blueprint.names, List.nil_append, List.map_append, List.append_assoc]

theorem supplier?_blueprint (c : Chain ι) (name : String) :
    c.blueprint.supplier? name = c.levels.findSome? (·.supplier? name) := by
  induction c with
  | root typeName own =>
    rw [blueprint, Blueprint.supplier?_declareAll, Blueprint.supplier?, Option.or_none, levels,
      List.findSome?_singleton, Level.supplier?_id]
  | derived typeName before parent project after ih =>
    have hparent : (parent.levels.map (·.along project)).findSome? (·.supplier? name) =
        (parent.levels.findSome? (·.supplier? name)).map (·.along project) := by
      rw [List.findSome?_map, List.map_findSome?]
      exact congrArg (List.findSome? · parent.levels)
        (funext fun l => Level.supplier?_along project name l)
    rw [blueprint, Blueprint.supplier?_declareAll, Blueprint.supplier?,
      Blueprint.supplier?_declareAll, ih, Blueprint.supplier?, Option.or_none, ← Option.or_assoc,
      ← Declaration.last?_append, levels, List.findSome?_cons, hparent, Level.supplier?_id]
    cases Declaration.last? name (before ++ after) <;> rfl

theorem marked_blueprint (c : Chain ι) (name : String) : c.blueprint.marked name = false := by
  induction c with
  | root typeName own => exact Blueprint.marked_declareAll rfl own
  | derived typeName before parent project after ih =>
    refine Blueprint.marked_declareAll ?_ after
    rw [Blueprint.marked]
    split
    · exact Blueprint.marked_declareAll rfl before
    · exact ih

/-- The attribute of a name is what the first level that declares it declared last. -/
theorem get?_descriptor (c : Chain ι) (name : String) :
    c.descriptor.get? name =
      (c.levels.findSome? (·.supplier? name)).map (·.toAttribute false) := by
  rw [descriptor, Blueprint.get?_build, supplier?_blueprint, marked_blueprint]

/-- The levels decide every attribute. -/
theorem attributes_descriptor (c : Chain ι) :
    c.descriptor.attributes = c.declaredNames.eraseDups.filterMap fun name =>
      (c.levels.findSome? (·.supplier? name)).map (·.toAttribute false) := by
  have hnodup : (namesOf c.descriptor.attributes).Nodup := c.blueprint.nodup_names_build
  calc c.descriptor.attributes
      = (namesOf c.descriptor.attributes).filterMap c.descriptor.get? :=
        (TypeDescriptor.filterMap_find? hnodup).symm
    _ = c.declaredNames.eraseDups.filterMap c.descriptor.get? := by
        rw [descriptor, Blueprint.names_build, names_blueprint]
    _ = _ := by
        rw [funext c.get?_descriptor]

/-- Where the calls to inherit stand is not seen on the levels. -/
theorem Rearranged.levels_eq {c c' : Chain ι} (h : Rearranged c c') : c.levels = c'.levels := by
  induction h with
  | root typeName own => rfl
  | derived typeName project hown hparent ih => rw [levels, levels, hown, ih]

theorem Rearranged.descriptor_eq {c c' : Chain ι} (h : Rearranged c c') :
    c.descriptor = c'.descriptor := by
  have htypeName : c.typeName = c'.typeName := by
    cases h <;> rfl
  have hattributes : c.descriptor.attributes = c'.descriptor.attributes := by
    rw [attributes_descriptor, attributes_descriptor, declaredNames, declaredNames, h.levels_eq]
  rw [← typeName_descriptor, ← typeName_descriptor] at htypeName
  calc c.descriptor
      = ⟨c.descriptor.typeName, c.descriptor.attributes⟩ := rfl
    _ = ⟨c'.descriptor.typeName, c'.descriptor.attributes⟩ := by rw [htypeName, hattributes]
    _ = c'.descriptor := rfl

/-- The lookup along the levels ends at the most derived declaration. -/
theorem MostDerived.findSome?_eq {c : Chain ι} {name : String} {level : Level ι}
    {s : Declaration level.target} (h : c.MostDerived name level s) :
    c.levels.findSome? (·.supplier? name) = some (s.along level.project) := by
  obtain ⟨derived, base, hlevels, hderived⟩ := h.first
  have hlast : Declaration.last? name level.own = some s :=
    Declaration.last?_eq_some_iff.mpr ⟨h.name_eq, h.last⟩
  refine List.findSome?_eq_some_iff.mpr ⟨derived, level, base, hlevels, ?_, fun l hl => ?_⟩
  · rw [Level.supplier?, hlast, Option.map_some]
  · exact Level.supplier?_eq_none_iff.mpr (hderived l hl)

/-- Every name that is declared has a most derived declaration. -/
theorem exists_mostDerived {c : Chain ι} {name : String} (h : name ∈ c.declaredNames) :
    ∃ (level : Level ι) (s : Declaration level.target), c.MostDerived name level s := by
  rw [declaredNames, List.mem_flatMap] at h
  obtain ⟨l, hl, hname⟩ := h
  have hfound : (c.levels.findSome? (·.supplier? name)).isSome := by
    rw [List.findSome?_isSome_iff]
    refine ⟨l, List.mem_reverse.mp hl, ?_⟩
    rw [Option.isSome_iff_ne_none]
    exact fun hnone => Level.supplier?_eq_none_iff.mp hnone hname
  obtain ⟨found, hfound⟩ := Option.isSome_iff_exists.mp hfound
  obtain ⟨derived, level, base, hlevels, hlevel, hderived⟩ := List.findSome?_eq_some_iff.mp hfound
  obtain ⟨s, hs, -⟩ := Option.map_eq_some_iff.mp hlevel
  obtain ⟨hname, hlast⟩ := Declaration.last?_eq_some_iff.mp hs
  exact ⟨level, s, hname, hlast, derived, base, hlevels,
    fun l hl => Level.supplier?_eq_none_iff.mp (hderived l hl)⟩

/-- **Inheritance resolves as in a class hierarchy.** The names of the head are those that are
declared from the root to the head, each at its first place. Every name has a most derived
declaration; it gives the kind, and the attribute is read by its accessor from the instance that is
projected to its level. The attributes that are discovered are those that do not hold an instance of
the head. Where the calls to inherit stand among the declarations of their levels changes nothing. -/
theorem descriptor_resolves (c : Chain ι) :
    namesOf c.descriptor.attributes = c.declaredNames.eraseDups ∧
    (∀ name ∈ namesOf c.descriptor.attributes,
      ∃ (level : Level ι) (s : Declaration level.target), c.MostDerived name level s) ∧
    (∀ (name : String) (level : Level ι) (s : Declaration level.target),
      c.MostDerived name level s →
        c.descriptor.get? name = some ⟨name, s.kind, true, fun x => s.read (level.project x)⟩ ∧
          ∀ x, c.descriptor.resolver.read x name = s.read (level.project x)) ∧
    c.descriptor.resolver.attributes =
      (c.descriptor.attributes.filter fun a => a.kind != .record c.typeName).map
        (fun a => ⟨a.name, a.kind⟩) ∧
    ∀ c', Rearranged c c' → c'.descriptor = c.descriptor := by
  have hnames : namesOf c.descriptor.attributes = c.declaredNames.eraseDups := by
    rw [descriptor, Blueprint.names_build, names_blueprint]
  refine ⟨hnames, fun name hname => ?reached, fun name level s h => ?resolved, ?discovered,
    fun c' h => h.descriptor_eq.symm⟩
  case reached =>
    rw [hnames, List.mem_eraseDups] at hname
    exact exists_mostDerived hname
  case resolved =>
    have hget : c.descriptor.get? name =
        some ⟨name, s.kind, true, fun x => s.read (level.project x)⟩ := by
      rw [get?_descriptor, h.findSome?_eq, Option.map_some, ← h.name_eq]
      rfl
    refine ⟨hget, fun x => ?_⟩
    show c.descriptor.read x name = _
    rw [TypeDescriptor.read, hget]
  case discovered =>
    show c.descriptor.comparedAttributes.map _ = _
    rw [descriptor, Blueprint.comparedAttributes_build, ← Blueprint.typeName_build, ← descriptor,
      typeName_descriptor]
    simp only [marked_blueprint, Bool.not_false, Bool.true_and]

/-- The attributes of anything that is stored, where the revision is declared twice. -/
def storedOwn : List (Declaration (String × Int64)) :=
  [.ofValue "id" .string fun s => .string s.1, .ofValue "revision" .string fun _ => .null,
    .ofValue "revision" .long fun s => .long s.2]

/-- A crate is stored, has a number of its own and may be sealed. -/
def crate : Chain ((String × Int64) × Bool) :=
  .derived "Crate" [.ofValue "sealed" .bool fun c => .bool c.2] (.root "Stored" storedOwn) Prod.fst
    [.ofValue "id" .string fun c => .string ("C" ++ c.1.1)]

/-- The declarations of a crate stand before the call to inherit. -/
def crateFirst : Chain ((String × Int64) × Bool) :=
  .derived "Crate" [.ofValue "sealed" .bool fun c => .bool c.2,
    .ofValue "id" .string fun c => .string ("C" ++ c.1.1)] (.root "Stored" storedOwn) Prod.fst []

/-- The label of a pallet, and its seal, which is a text. -/
def palletOwn : List (Declaration (((String × Int64) × Bool) × String)) :=
  [.ofValue "label" .string fun p => .string p.2, .ofValue "sealed" .string fun p => .string p.2]

/-- A pallet is a crate, and it inherits after its own declarations. -/
def pallet : Chain (((String × Int64) × Bool) × String) :=
  .derived "Pallet" palletOwn crate Prod.fst []

/-- The same pallet, which inherits before its own declarations. -/
def palletLast : Chain (((String × Int64) × Bool) × String) :=
  .derived "Pallet" [] crateFirst Prod.fst palletOwn

/-- The revision of a pallet is what was declared last for anything that is stored, two levels
below, and the calls to inherit may stand elsewhere. -/
theorem descriptor_resolves_pallet :
    namesOf pallet.descriptor.attributes = ["id", "revision", "sealed", "label"] ∧
      (∃ (level : Level (((String × Int64) × Bool) × String)) (s : Declaration level.target),
        pallet.MostDerived "revision" level s) ∧
      pallet.descriptor.get? "revision" =
        some ⟨"revision", .long, true, fun x => .ok (.long x.1.1.2)⟩ ∧
      Rearranged pallet palletLast ∧ palletLast.descriptor = pallet.descriptor := by
  obtain ⟨hnames, hreached, hresolved, -, hrearranged⟩ := descriptor_resolves pallet
  have hpallet : namesOf pallet.descriptor.attributes = ["id", "revision", "sealed", "label"] :=
    hnames.trans rfl
  have hmem : "revision" ∈ namesOf pallet.descriptor.attributes := by
    rw [hpallet]
    decide
  have hrevision : pallet.MostDerived "revision" ⟨Prod.fst ∘ Prod.fst, storedOwn⟩
      (.ofValue "revision" .long fun s => .long s.2) :=
    { name_eq := rfl
      last := ⟨storedOwn.take 2, [], rfl, List.forall_mem_nil _⟩
      first := ⟨[_, _], [], rfl,
        List.forall_mem_cons.mpr ⟨by decide, List.forall_mem_singleton.mpr (by decide)⟩⟩ }
  have hmoved : Rearranged pallet palletLast :=
    .derived "Pallet" Prod.fst rfl (.derived "Crate" Prod.fst rfl (.root "Stored" storedOwn))
  refine ⟨hpallet, hreached "revision" hmem, ?_, hmoved, hrearranged palletLast hmoved⟩
  exact (hresolved "revision" _ _ hrevision).1

end Chain

end RecordDiff
