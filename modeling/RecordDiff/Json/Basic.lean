import RecordDiff.Members
import RecordDiff.Number.FloatFormat

/-!
# JSON data

JSON values with two kinds of numbers, whole numbers and doubles, and with objects that keep the
order of their members.

## Main definitions

* `Json` - the values
* `Json.merged` - the value in which every repeated key of an object was set over the earlier one
-/

namespace RecordDiff

/-- A JSON value. Whole numbers and doubles are apart: `1` and `1.0` are different values. -/
inductive Json where
  | null
  | bool (b : Bool)
  | integer (n : Int)
  | double (d : Double)
  | string (s : String)
  | array (items : List Json)
  | object (members : List (String × Json))
  deriving Inhabited

namespace Json

/-- A number that is not finite has no JSON form and becomes null. -/
def ofDouble (d : Double) : Json := if d.isFinite then .double d else .null

mutual

/-- The value in which a repeated key of an object has its first place and its last value. -/
def merged : Json → Json
  | .array items => .array (mergedItems items)
  | .object members => .object (Members.ofList (mergedMembers members))
  | j => j
termination_by structural j => j

/-- `merged` on the items of an array. -/
def mergedItems : List Json → List Json
  | [] => []
  | j :: rest => merged j :: mergedItems rest
termination_by structural items => items

/-- `merged` on the members of an object. -/
def mergedMembers : List (String × Json) → List (String × Json)
  | [] => []
  | (key, j) :: rest => (key, merged j) :: mergedMembers rest
termination_by structural members => members

end

theorem mergedItems_eq_map (items : List Json) : mergedItems items = items.map merged := by
  induction items with
  | nil => rfl
  | cons j rest ih => simp [mergedItems, ih]

theorem mergedMembers_eq_map (members : List (String × Json)) :
    mergedMembers members = members.map fun m => (m.1, merged m.2) := by
  induction members with
  | nil => rfl
  | cons m rest ih => simp [mergedMembers, ih]

end Json

end RecordDiff
