import RecordDiff.Attribute.Resolver
import RecordDiff.Event

/-!
# Type descriptors

A descriptor declares the attributes of a type one after the other. Declaring a name again replaces
the attribute and keeps its place. A descriptor can inherit from that of a parent type, which the
instances are projected to: the parent's attributes come first, and an attribute of the type itself
takes the place of the parent's attribute of its name.

## Main definitions

* `Attribute` - name, kind and reader of an attribute
* `TypeDescriptor.declare`, `TypeDescriptor.declareFallible`, `TypeDescriptor.nonComparable`,
  `TypeDescriptor.inherit` - how a descriptor is built
* `TypeDescriptor.resolver` - the attributes that are compared, and how they are read
-/

namespace RecordDiff

/-- An attribute of a type: its name, its kind, whether it is compared, and its reader. -/
structure Attribute (ι : Type _) where
  name : String
  kind : Kind
  comparable : Bool
  read : ι → Reading

/-- The attribute of the instances that `project` leads to. -/
def Attribute.along {ι π : Type _} (project : ι → π) (a : Attribute π) : Attribute ι :=
  { a with read := fun x => a.read (project x) }

/-- The name of a type and its attributes in order. -/
structure TypeDescriptor (ι : Type _) where
  typeName : String
  attributes : List (Attribute ι)

namespace TypeDescriptor

variable {ι π : Type _}

/-- A type without attributes. -/
def empty (typeName : String) : TypeDescriptor ι := ⟨typeName, []⟩

/-! ### Declarations -/

/-- Puts an attribute into the place of the one of its name, or at the end. -/
def place (a : Attribute ι) : List (Attribute ι) → List (Attribute ι)
  | [] => [a]
  | b :: rest => if b.name = a.name then a :: rest else b :: place a rest

/-- Declares an attribute whose reader may fail. -/
def declareFallible (d : TypeDescriptor ι) (name : String) (kind : Kind) (read : ι → Reading) :
    TypeDescriptor ι :=
  { d with attributes := place ⟨name, kind, true, read⟩ d.attributes }

/-- Declares an attribute that can always be read. -/
def declare (d : TypeDescriptor ι) (name : String) (kind : Kind) (read : ι → Value) :
    TypeDescriptor ι :=
  d.declareFallible name kind fun x => .ok (read x)

/-- The attribute of a name. -/
def get? (d : TypeDescriptor ι) (name : String) : Option (Attribute ι) :=
  d.attributes.find? fun a => a.name = name

/-- Marks the attribute of a name as not compared. -/
def unmark (name : String) : List (Attribute ι) → List (Attribute ι)
  | [] => []
  | a :: rest =>
    if a.name = name then { a with comparable := false } :: rest else a :: unmark name rest

/-- Marks the attribute of a name as not compared; a name that is not declared is only
reported. -/
def nonComparable (d : TypeDescriptor ι) (name : String) : Logged (TypeDescriptor ι) :=
  match d.get? name with
  | some _ => .silent { d with attributes := unmark name d.attributes }
  | none => ⟨d, [.undeclaredMark d.typeName name]⟩

/-- The inherited attributes in order, each replaced by the own attribute of its name if there is
one, and then the own attributes that are left. -/
def merge (project : ι → π) : List (Attribute π) → List (Attribute ι) → List (Attribute ι)
  | [], own => own
  | p :: rest, own =>
    match own.find? fun a => a.name = p.name with
    | some a => a :: merge project rest (own.eraseP fun b => b.name = p.name)
    | none => p.along project :: merge project rest own

/-- Inherits the attributes of a parent type that the instances are projected to. -/
def inherit (d : TypeDescriptor ι) (parent : TypeDescriptor π) (project : ι → π) :
    TypeDescriptor ι :=
  { d with attributes := merge project parent.attributes d.attributes }

/-! ### Resolution -/

/-- The attribute holds an instance of its own type. -/
def isSelfReference (d : TypeDescriptor ι) (a : Attribute ι) : Bool :=
  a.kind == .record d.typeName

/-- The attributes that are compared: neither marked otherwise nor of the type itself. -/
def comparedAttributes (d : TypeDescriptor ι) : List (Attribute ι) :=
  d.attributes.filter fun a => a.comparable && !d.isSelfReference a

/-- Reads the attribute of a name. -/
def read (d : TypeDescriptor ι) (x : ι) (name : String) : Reading :=
  match d.get? name with
  | some a => a.read x
  | none => .error (.unknown name)

/-- The resolver of the type, which reads many attributes one by one. -/
def resolver (d : TypeDescriptor ι) : Resolver ι where
  typeName := d.typeName
  attributes := d.comparedAttributes.map fun a => ⟨a.name, a.kind⟩
  read := d.read
  readMany x names := names.map (d.read x)

end TypeDescriptor

end RecordDiff
