import RecordDiff.Attribute.Descriptor
import RecordDiff.Members
import RecordDiff.Proofs.FirstOccurrences

/-!
# How descriptors are built

A descriptor is built by calls: declarations, marks and the inheritance of other descriptors, which
are built in the same way. What comes out has to be a table with one attribute for each name. Each
call works on the list of attributes in a way of its own. A declaration replaces in place or goes to
the end, a mark changes one entry, and inheriting takes the own attributes that hide inherited ones
out of the list and puts them where the inherited ones would be.

The lists are described by two views, the names in their order and the attribute of each name. Under
these views the calls are simple: the names are those that were ever declared or inherited, each at
its first place, where what is inherited comes first; and the attribute of a name is that of the
declaration that came last, own declarations before inherited ones.

## Main definitions

* `Declaration` - an attribute as it is declared
* `Blueprint` - a run of calls that builds a descriptor
* `Blueprint.names`, `Blueprint.supplier?`, `Blueprint.marked` - what the calls say about names

## Main results

* `TypeDescriptor.names_merge`, `TypeDescriptor.find?_merge` - inheriting under the two views
* `Blueprint.names_build`, `Blueprint.get?_build` - what a run of calls builds, in terms of the calls
* `Blueprint.build_invariant` - names are distinct and never lost, and attributes are discovered
  unless they were marked since they were declared
-/

namespace RecordDiff

universe u

namespace TypeDescriptor

variable {ι π : Type*}

/-! ### The two views -/

/-- The names of attributes in their order. -/
def namesOf (as : List (Attribute ι)) : List String := as.map (·.name)

@[simp] theorem namesOf_nil : namesOf ([] : List (Attribute ι)) = [] := rfl

@[simp] theorem namesOf_cons (a : Attribute ι) (as : List (Attribute ι)) :
    namesOf (a :: as) = a.name :: namesOf as := rfl

theorem find?_name_cons (name : String) (a : Attribute ι) (as : List (Attribute ι)) :
    ((a :: as).find? fun b => b.name = name) =
      if a.name = name then some a else as.find? fun b => b.name = name := by
  by_cases h : a.name = name <;> simp [h]

/-- Attributes under their names. -/
def keyed (as : List (Attribute ι)) : List (String × Attribute ι) := as.map fun a => (a.name, a)

@[simp] theorem keyed_cons (a : Attribute ι) (as : List (Attribute ι)) :
    keyed (a :: as) = (a.name, a) :: keyed as := rfl

theorem names_keyed (as : List (Attribute ι)) : Members.names (keyed as) = namesOf as := by
  rw [Members.names, keyed, List.map_map]
  rfl

theorem get?_keyed (name : String) (as : List (Attribute ι)) :
    Members.get? name (keyed as) = as.find? fun a => a.name = name := by
  induction as with
  | nil => rfl
  | cons a as ih =>
    rw [keyed_cons, Members.get?, find?_name_cons, ih]

theorem name_of_find? {name : String} {as : List (Attribute ι)} {a : Attribute ι}
    (h : (as.find? fun a => a.name = name) = some a) : a.name = name := by
  simpa using List.find?_some h

theorem find?_eq_none_iff {name : String} {as : List (Attribute ι)} :
    (as.find? fun a => a.name = name) = none ↔ name ∉ namesOf as := by
  simp [namesOf]

/-! ### Declaring and marking -/

/-- Placing an attribute is setting its name. -/
theorem keyed_place (a : Attribute ι) (as : List (Attribute ι)) :
    keyed (place a as) = Members.set a.name a (keyed as) := by
  induction as with
  | nil => rfl
  | cons b as ih =>
    rw [place, keyed_cons, Members.set]
    by_cases h : b.name = a.name
    · rw [if_pos h, if_pos h, keyed_cons]
    · rw [if_neg h, if_neg h, keyed_cons, ih]

theorem names_place (a : Attribute ι) (as : List (Attribute ι)) :
    namesOf (place a as) =
      if a.name ∈ namesOf as then namesOf as else namesOf as ++ [a.name] := by
  rw [← names_keyed, keyed_place, Members.names_set, names_keyed]

theorem find?_place (name : String) (a : Attribute ι) (as : List (Attribute ι)) :
    ((place a as).find? fun b => b.name = name) =
      if a.name = name then some a else as.find? fun b => b.name = name := by
  rw [← get?_keyed, keyed_place, Members.get?_set, get?_keyed]

theorem names_unmark (name : String) (as : List (Attribute ι)) :
    namesOf (unmark name as) = namesOf as := by
  induction as with
  | nil => rfl
  | cons a as ih =>
    rw [unmark]
    by_cases h : a.name = name
    · rw [if_pos h, namesOf_cons, namesOf_cons]
    · rw [if_neg h, namesOf_cons, namesOf_cons, ih]

theorem find?_unmark (other name : String) (as : List (Attribute ι)) :
    ((unmark other as).find? fun a => a.name = name) =
      (as.find? fun a => a.name = name).map fun a =>
        { a with comparable := a.comparable && other != name } := by
  induction as with
  | nil => rfl
  | cons a as ih =>
    rw [unmark, find?_name_cons]
    by_cases hother : a.name = other
    · rw [if_pos hother, find?_name_cons]
      by_cases hname : a.name = name
      · have hsame : other = name := hother.symm.trans hname
        rw [if_pos hname, if_pos hname, Option.map_some, hsame, bne_self_eq_false, Bool.and_false]
      · have hne : (other != name) = true := by simpa [hother] using hname
        rw [if_neg hname, if_neg hname, hne]
        simp
    · rw [if_neg hother, find?_name_cons]
      by_cases hname : a.name = name
      · have hne : (other != name) = true := by
          simpa [← hname] using fun h : other = a.name => hother h.symm
        rw [if_pos hname, if_pos hname, Option.map_some, hne, Bool.and_true]
      · rw [if_neg hname, if_neg hname, ih]

/-! ### Inheriting -/

theorem namesOf_eraseP (name : String) (as : List (Attribute ι)) :
    namesOf (as.eraseP fun a => a.name = name) = (namesOf as).erase name := by
  induction as with
  | nil => rfl
  | cons a as ih =>
    by_cases h : a.name = name
    · rw [List.eraseP_cons_of_pos (by simpa using h)]
      rw [namesOf_cons, h, List.erase_cons_head]
    · rw [List.eraseP_cons_of_neg (by simpa using h)]
      rw [namesOf_cons, ih, namesOf_cons, List.erase_cons_tail (by simpa using h)]

theorem find?_eraseP_of_ne {name other : String} (h : other ≠ name) (as : List (Attribute ι)) :
    ((as.eraseP fun a => a.name = other).find? fun a => a.name = name) =
      as.find? fun a => a.name = name := by
  induction as with
  | nil => rfl
  | cons a as ih =>
    by_cases hother : a.name = other
    · have hne : a.name ≠ name := hother ▸ h
      rw [List.eraseP_cons_of_pos (by simpa using hother), find?_name_cons, if_neg hne]
    · rw [List.eraseP_cons_of_neg (by simpa using hother), find?_name_cons, find?_name_cons, ih]

/-- The inherited names stand first, and the own names that hide one of them stand there. -/
theorem names_merge (project : ι → π) (ps : List (Attribute π)) {own : List (Attribute ι)}
    (h : (namesOf own).Nodup) :
    namesOf (merge project ps own) =
      namesOf ps ++ (namesOf own).filter fun name => name ∉ namesOf ps := by
  -- An own attribute that takes its place leaves the list, hence the induction is over all lists.
  -- What is taken out has to be the only one of its name.
  induction ps generalizing own with
  | nil => simp [merge, namesOf]
  | cons p ps ih =>
    have herase : ((namesOf own).erase p.name).filter (fun name => name ∉ namesOf ps) =
        (namesOf own).filter fun name => name ∉ namesOf (p :: ps) := by
      rw [h.erase_eq_filter, List.filter_filter]
      refine List.filter_congr fun name _ => ?_
      by_cases hp : name = p.name <;> simp [namesOf, hp]
    cases hfind : own.find? fun a => a.name = p.name with
    | some a =>
      have hrest : (namesOf (own.eraseP fun a => a.name = p.name)).Nodup := by
        rw [namesOf_eraseP]
        exact h.erase p.name
      have hname : a.name = p.name := name_of_find? hfind
      simp only [merge, hfind]
      rw [namesOf_cons, ih hrest, namesOf_eraseP, herase, hname, namesOf_cons, List.cons_append]
    | none =>
      have hout : p.name ∉ namesOf own := find?_eq_none_iff.mp hfind
      simp only [merge, hfind]
      rw [namesOf_cons, ih h, ← herase, List.erase_of_not_mem hout, namesOf_cons, List.cons_append]
      rfl

/-- Under the name of an attribute stands the own one or else the inherited one. -/
theorem find?_merge (project : ι → π) (name : String) (ps : List (Attribute π))
    (own : List (Attribute ι)) :
    ((merge project ps own).find? fun a => a.name = name) =
      (own.find? fun a => a.name = name).or
        ((ps.find? fun a => a.name = name).map (·.along project)) := by
  induction ps generalizing own with
  | nil => exact Option.or_none.symm
  | cons p ps ih =>
    rw [merge, find?_name_cons]
    cases hfind : own.find? fun a => a.name = p.name with
    | some a =>
      have ha : a.name = p.name := name_of_find? hfind
      show ((a :: _).find? _) = _
      rw [find?_name_cons, ha]
      by_cases hname : p.name = name
      · rw [if_pos hname, if_pos hname, ← hname, hfind, Option.some_or]
      · rw [if_neg hname, if_neg hname, ih, find?_eraseP_of_ne hname]
    | none =>
      show ((p.along project :: _).find? _) = _
      rw [find?_name_cons]
      by_cases hname : p.name = name
      · rw [if_pos (show (p.along project).name = name from hname), if_pos hname, ← hname, hfind,
          Option.none_or, Option.map_some]
      · rw [if_neg (show (p.along project).name ≠ name from hname), if_neg hname, ih]

/-! ### Descriptors under the two views -/

theorem find?_of_mem {as : List (Attribute ι)} (h : (namesOf as).Nodup) {a : Attribute ι}
    (ha : a ∈ as) : (as.find? fun b => b.name = a.name) = some a := by
  rw [← names_keyed] at h
  have hmem : (a.name, a) ∈ keyed as := List.mem_map_of_mem ha
  rw [← get?_keyed]
  exact Members.get?_of_mem h hmem

/-- Attributes with distinct names are those of their names. -/
theorem filterMap_find? {as : List (Attribute ι)} (h : (namesOf as).Nodup) :
    (namesOf as).filterMap (fun name => as.find? fun a => a.name = name) = as := by
  rw [namesOf, List.filterMap_map]
  calc as.filterMap _ = as.filterMap some := List.filterMap_congr fun a ha => find?_of_mem h ha
    _ = as := List.filterMap_some

theorem unmark_of_not_mem {name : String} {as : List (Attribute ι)} (h : name ∉ namesOf as) :
    unmark name as = as := by
  induction as with
  | nil => rfl
  | cons a as ih =>
    rw [namesOf_cons, List.mem_cons, not_or] at h
    have hne : a.name ≠ name := fun e => h.1 e.symm
    rw [unmark, if_neg hne, ih h.2]

/-- A mark of a name that is not declared changes nothing. -/
theorem nonComparable_value (d : TypeDescriptor ι) (name : String) :
    (d.nonComparable name).value = { d with attributes := unmark name d.attributes } := by
  rw [nonComparable]
  cases hget : d.get? name with
  | some a => rfl
  | none =>
    have hout : name ∉ namesOf d.attributes := find?_eq_none_iff.mp hget
    rw [unmark_of_not_mem hout]

end TypeDescriptor

/-! ### Runs of calls -/

/-- An attribute as it is declared. One that can always be read has a reader that does not fail. -/
structure Declaration (ι : Type u) where
  name : String
  kind : Kind
  read : ι → Reading

namespace Declaration

variable {ι π : Type u}

/-- The declaration of an attribute that can always be read. -/
def ofValue (name : String) (kind : Kind) (read : ι → Value) : Declaration ι :=
  ⟨name, kind, fun x => .ok (read x)⟩

/-- The declaration for the instances that `project` leads to. -/
def along (project : ι → π) (s : Declaration π) : Declaration ι :=
  { s with read := fun x => s.read (project x) }

/-- The attribute that results from a declaration, which is compared unless it was marked. -/
def toAttribute (s : Declaration ι) (marked : Bool) : Attribute ι :=
  ⟨s.name, s.kind, !marked, s.read⟩

end Declaration

/-- A run of calls that builds a descriptor, the last call outermost. A descriptor that is inherited
was built by a run of its own. -/
inductive Blueprint : Type u → Type (u + 1) where
  | empty (typeName : String) : Blueprint ι
  | declare (b : Blueprint ι) (s : Declaration ι) : Blueprint ι
  | nonComparable (b : Blueprint ι) (name : String) : Blueprint ι
  | inherit (b : Blueprint ι) (parent : Blueprint π) (project : ι → π) : Blueprint ι

namespace Blueprint

open TypeDescriptor (namesOf)

/-- The descriptor that the calls build. -/
def build : {ι : Type u} → Blueprint ι → TypeDescriptor ι
  | _, .empty typeName => .empty typeName
  | _, .declare b s => b.build.declareFallible s.name s.kind s.read
  | _, .nonComparable b name => (b.build.nonComparable name).value
  | _, .inherit b parent project => b.build.inherit parent.build project

/-- The type that is described. -/
def typeName : {ι : Type u} → Blueprint ι → String
  | _, .empty typeName => typeName
  | _, .declare b _ => b.typeName
  | _, .nonComparable b _ => b.typeName
  | _, .inherit b _ _ => b.typeName

/-- The names that were declared or inherited, with repetitions; what is inherited goes to the
front. -/
def names : {ι : Type u} → Blueprint ι → List String
  | _, .empty _ => []
  | _, .declare b s => b.names ++ [s.name]
  | _, .nonComparable b _ => b.names
  | _, .inherit b parent _ => parent.names ++ b.names

/-- The declaration that supplies the attribute of a name: the last one of the type itself, or else
the one that supplies the first parent that has the name. -/
def supplier? (name : String) : {ι : Type u} → Blueprint ι → Option (Declaration ι)
  | _, .empty _ => none
  | _, .declare b s => if s.name = name then some s else b.supplier? name
  | _, .nonComparable b _ => b.supplier? name
  | _, .inherit b parent project =>
    (b.supplier? name).or ((parent.supplier? name).map (·.along project))

/-- The attribute of a name was marked since the declaration that supplies it, in the run that made
this declaration or in one that inherited it. -/
def marked (name : String) : {ι : Type u} → Blueprint ι → Bool
  | _, .empty _ => false
  | _, .declare b s => s.name != name && b.marked name
  | _, .nonComparable b other => other == name || b.marked name
  | _, .inherit b parent _ => if name ∈ b.names then b.marked name else parent.marked name

variable {ι : Type u}

/-! ### What a run builds -/

/-- An attribute that can always be read is declared as any other one. -/
theorem build_declare_ofValue (b : Blueprint ι) (name : String) (kind : Kind)
    (read : ι → Value) :
    (b.declare (.ofValue name kind read)).build = b.build.declare name kind read := rfl

theorem typeName_build (b : Blueprint ι) : b.build.typeName = b.typeName := by
  induction b with
  | empty => rfl
  | declare b s ih => exact ih
  | nonComparable b name ih => rw [build, TypeDescriptor.nonComparable_value, typeName, ← ih]
  | inherit b parent project ih => exact ih

/-- Each name that was declared or inherited has one attribute, at the first place of the name. -/
theorem names_build (b : Blueprint ι) : namesOf b.build.attributes = b.names.eraseDups := by
  induction b with
  | empty => rfl
  | declare b s ih =>
    rw [build, TypeDescriptor.declareFallible, TypeDescriptor.names_place, ih, names,
      eraseDups_concat]
    simp only [List.mem_eraseDups]
  | nonComparable b name ih =>
    rw [build, TypeDescriptor.nonComparable_value, TypeDescriptor.names_unmark, ih, names]
  | inherit b parent project ih ihParent =>
    have hnodup : (namesOf b.build.attributes).Nodup := by
      rw [ih]
      exact nodup_eraseDups b.names
    rw [build, TypeDescriptor.inherit, TypeDescriptor.names_merge project _ hnodup, ih, ihParent,
      names, List.eraseDups_append, List.removeAll, eraseDups_filter]
    simp

theorem mem_namesOf_build {b : Blueprint ι} {name : String} :
    name ∈ namesOf b.build.attributes ↔ name ∈ b.names := by
  rw [names_build, List.mem_eraseDups]

theorem nodup_names_build (b : Blueprint ι) : (namesOf b.build.attributes).Nodup := by
  rw [names_build]
  exact nodup_eraseDups b.names

/-- The attribute of a name is that of its supplier, and it is compared unless it was marked. -/
theorem get?_build (b : Blueprint ι) (name : String) :
    b.build.get? name = (b.supplier? name).map (·.toAttribute (b.marked name)) := by
  induction b with
  | empty => rfl
  | declare b s ih =>
    rw [build, TypeDescriptor.get?, TypeDescriptor.declareFallible, TypeDescriptor.find?_place]
    by_cases hname : s.name = name
    · simp [supplier?, marked, hname, Declaration.toAttribute]
    · have hmarked : (b.declare s).marked name = b.marked name := by
        simp [marked, hname]
      rw [if_neg hname, hmarked, supplier?, if_neg hname, ← ih]
      rfl
  | nonComparable b other ih =>
    rw [build, TypeDescriptor.nonComparable_value, TypeDescriptor.get?,
      TypeDescriptor.find?_unmark]
    rw [TypeDescriptor.get?] at ih
    rw [ih, Option.map_map, supplier?, marked]
    refine Option.map_congr fun s _ => ?_
    simp [Declaration.toAttribute, Bool.and_comm, bne]
  | inherit b parent project ih ihParent =>
    rw [build, TypeDescriptor.get?, TypeDescriptor.inherit, TypeDescriptor.find?_merge]
    rw [TypeDescriptor.get?] at ih ihParent
    rw [ih, ihParent, supplier?, marked]
    cases hs : b.supplier? name with
    | some s =>
      have hmem : name ∈ b.names := by
        rw [← mem_namesOf_build]
        by_contra hout
        rw [TypeDescriptor.find?_eq_none_iff.mpr hout, hs] at ih
        cases ih
      rw [if_pos hmem]
      rfl
    | none =>
      have hout : name ∉ b.names := by
        rw [← mem_namesOf_build, ← TypeDescriptor.find?_eq_none_iff, ih, hs]
        rfl
      rw [if_neg hout, Option.map_none, Option.none_or, Option.none_or, Option.map_map,
        Option.map_map]
      rfl

theorem get?_build_of_mem {b : Blueprint ι} {a : Attribute ι} (ha : a ∈ b.build.attributes) :
    b.build.get? a.name = some a :=
  TypeDescriptor.find?_of_mem b.nodup_names_build ha

/-- An attribute is what its supplier declared, and is compared unless it was marked. -/
theorem exists_supplier {b : Blueprint ι} {a : Attribute ι} (ha : a ∈ b.build.attributes) :
    ∃ s, b.supplier? a.name = some s ∧ a = s.toAttribute (b.marked a.name) := by
  have hget := get?_build_of_mem ha
  rw [get?_build] at hget
  obtain ⟨s, hs, hsa⟩ := Option.map_eq_some_iff.mp hget
  exact ⟨s, hs, hsa.symm⟩

/-- The attributes that are compared are those that neither were marked since they were declared
nor hold an instance of the type. -/
theorem comparedAttributes_build (b : Blueprint ι) :
    b.build.comparedAttributes =
      b.build.attributes.filter fun a => !b.marked a.name && a.kind != .record b.typeName := by
  refine List.filter_congr fun a ha => ?_
  obtain ⟨s, -, hs⟩ := exists_supplier ha
  have hcomparable : a.comparable = !b.marked a.name := congrArg Attribute.comparable hs
  rw [hcomparable, TypeDescriptor.isSelfReference, typeName_build, bne]

/-- **Descriptors are tables by name.** After every run of calls the names are distinct, and they
are those that were declared or inherited; an attribute is what its supplier declared; the
attributes that are discovered are, in their order, those that were not marked since they were
declared and that do not hold an instance of the type; and each of them is read through the one
attribute of its name. -/
theorem build_invariant (b : Blueprint ι) :
    (namesOf b.build.attributes).Nodup ∧
    (∀ name, name ∈ namesOf b.build.attributes ↔ name ∈ b.names) ∧
    (∀ a ∈ b.build.attributes, ∃ s, b.supplier? a.name = some s ∧
      a.name = s.name ∧ a.kind = s.kind ∧ a.read = s.read) ∧
    b.build.resolver.attributes =
      (b.build.attributes.filter fun a => !b.marked a.name && a.kind != .record b.typeName).map
        (fun a => ⟨a.name, a.kind⟩) ∧
    ∀ info ∈ b.build.resolver.attributes, ∃ a, b.build.get? info.name = some a ∧
      (∀ a' ∈ b.build.attributes, a'.name = info.name ↔ a' = a) ∧ a.kind = info.kind ∧
      ∀ x, b.build.resolver.read x info.name = a.read x := by
  refine ⟨b.nodup_names_build, fun _ => mem_namesOf_build, ?supplied, ?discovered, ?readable⟩
  case supplied =>
    intro a ha
    obtain ⟨s, hs, hsa⟩ := exists_supplier ha
    refine ⟨s, hs, ?_⟩
    rw [hsa]
    exact ⟨rfl, rfl, rfl⟩
  case discovered =>
    show b.build.comparedAttributes.map _ = _
    rw [comparedAttributes_build]
  case readable =>
    intro info hinfo
    obtain ⟨a, ha, rfl⟩ := List.mem_map.mp hinfo
    have hget : b.build.get? a.name = some a := get?_build_of_mem (List.mem_of_mem_filter ha)
    refine ⟨a, hget, fun a' ha' => ⟨fun hname => ?_, fun h => h ▸ rfl⟩, rfl, fun x => ?_⟩
    · have hget' := get?_build_of_mem ha'
      rw [hname, hget] at hget'
      exact (Option.some.inj hget').symm
    · show b.build.read x a.name = a.read x
      rw [TypeDescriptor.read, hget]

/-- What is kept about anything that is stored: its number and its revision. -/
def stored : Blueprint (String × Int64) :=
  ((empty "Stored").declare (.ofValue "id" .string fun s => .string s.1)).declare
    (.ofValue "revision" .long fun s => .long s.2)

/-- A crate is stored in two places, has a number of its own and may hold a crate. It inherits what
is stored twice, and its number is declared after the first time and was marked before. -/
def crate : Blueprint ((String × Int64) × (String × Int64)) :=
  let labelled := ((empty "Crate").nonComparable "revision").declare
    (.ofValue "label" .string fun c => .string c.1.1)
  let placed := ((labelled.inherit stored Prod.fst).nonComparable "id").nonComparable "revision"
  let numbered := placed.declare (.ofValue "id" .string fun c => .string (c.1.1 ++ c.2.1))
  (numbered.inherit (stored.nonComparable "id") Prod.snd).declare
    (.ofValue "content" (.record "Crate") fun _ => .null)

/-- The number of a crate is compared and read as the crate declares it. Its revision was marked
after it was inherited, and its content is a crate. -/
theorem build_invariant_crate :
    namesOf crate.build.attributes = ["id", "revision", "label", "content"] ∧
      (namesOf crate.build.attributes).Nodup ∧
      crate.build.resolver.attributes = [⟨"id", .string⟩, ⟨"label", .string⟩] ∧
      (∃ a ∈ crate.build.attributes, a.name = "revision" ∧
        ∃ s, crate.supplier? a.name = some s ∧ a.read = s.read) ∧
      ∃ a, crate.build.get? "id" = some a ∧
        ∀ x, crate.build.resolver.read x "id" = a.read x ∧
          a.read x = .ok (.string (x.1.1 ++ x.2.1)) := by
  obtain ⟨hnodup, -, hsupplied, hdiscovered, hreadable⟩ := build_invariant crate
  have hnames : namesOf crate.build.attributes = ["id", "revision", "label", "content"] := rfl
  refine ⟨hnames, hnodup, hdiscovered.trans rfl, ?revision, ?id⟩
  case revision =>
    have hmem : "revision" ∈ namesOf crate.build.attributes := by
      rw [hnames]
      decide
    obtain ⟨a, ha, hname⟩ := List.mem_map.mp hmem
    obtain ⟨s, hs, -, -, hread⟩ := hsupplied a ha
    exact ⟨a, ha, hname, s, hs, hread⟩
  case id =>
    have hmem : ⟨"id", .string⟩ ∈ crate.build.resolver.attributes := List.mem_cons_self
    obtain ⟨a, ha, -, -, hread⟩ := hreadable ⟨"id", .string⟩ hmem
    refine ⟨a, ha, fun x => ⟨hread x, ?_⟩⟩
    rw [← hread x]
    rfl

end Blueprint

end RecordDiff
