import RecordDiff.Attribute.Resolver
import RecordDiff.Value.Json

/-!
# Attributes of documents

An instance that can be written as a JSON object has the members of that object as attributes. The
attributes of the type and their kinds are taken from a prototype.

Whole numbers have no fixed kind, because a prototype does not tell small numbers from large ones,
and neither have null and objects.

## Main definitions

* `DocumentResolver.ofPrototype` - the attributes that a prototype has
* `DocumentResolver.resolver` - reading them from instances
-/

namespace RecordDiff

/-- The declared kind of an attribute whose prototype has the JSON value. -/
def Kind.ofJson : Json → Kind
  | .bool _ => .bool
  | .double _ => .double
  | .string _ => .string
  | .array _ => .list
  | .null | .integer _ | .object _ => .any

/-- A type whose instances are written as JSON objects, which may fail for a reason. -/
structure DocumentResolver (ι : Type _) where
  typeName : String
  attributes : List AttributeInfo
  document : ι → Except Reason Json

namespace DocumentResolver

variable {ι : Type _}

/-- The members of an instance. Errors name `subject`. -/
def membersOf (document : ι → Except Reason Json) (x : ι) (subject : String) :
    Except AttributeError (List (String × Json)) :=
  match document x with
  | .ok (.object members) => .ok members
  | .ok _ => .error (.accessDenied subject "value does not serialize as a struct")
  | .error reason => .error (.serialization subject reason)

/-- The type whose attributes are the members of the prototype. -/
def ofPrototype (typeName : String) (document : ι → Except Reason Json) (prototype : ι) :
    Except AttributeError (DocumentResolver ι) :=
  (membersOf document prototype typeName).map fun members =>
    ⟨typeName, members.map fun m => ⟨m.1, Kind.ofJson m.2⟩, document⟩

/-- The type under another name. -/
def withTypeName (d : DocumentResolver ι) (typeName : String) : DocumentResolver ι :=
  { d with typeName }

/-- The attribute among the members of an instance. -/
def reading (members : List (String × Json)) (name : String) : Reading :=
  match Members.get? name members with
  | some j => .ok (Value.ofJson j)
  | none => .error (.unknown name)

/-- Reads the attribute of a name. -/
def read (d : DocumentResolver ι) (x : ι) (name : String) : Reading :=
  (membersOf d.document x name).bind fun members => reading members name

/-- Takes attributes out of the members one after the other. -/
def takeAll (members : List (String × Json)) : List String → List Reading
  | [] => []
  | name :: rest => reading members name :: takeAll (Members.erase name members) rest

/-- Reads many attributes from one document. An instance without members is read attribute by
attribute, so that each error names its attribute. -/
def readMany (d : DocumentResolver ι) (x : ι) (names : List String) : List Reading :=
  match membersOf d.document x d.typeName with
  | .ok members => takeAll members names
  | .error _ => names.map (d.read x)

/-- The resolver of the type. -/
def resolver (d : DocumentResolver ι) : Resolver ι where
  typeName := d.typeName
  attributes := d.attributes
  read := d.read
  readMany := d.readMany

end DocumentResolver

end RecordDiff
