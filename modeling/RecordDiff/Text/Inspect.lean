import RecordDiff.Text.Quoted

/-!
# Inspection texts

A one-line form of data for people who look into a program: strings are quoted, lists stand in
brackets, and a structure is its name with its fields.
-/

namespace RecordDiff.Text

/-- Items with commas between them, in brackets. -/
def inspectList (items : List String) : String := "[" ++ ", ".intercalate items ++ "]"

/-- Quoted texts in brackets. -/
def inspectStrings (items : List String) : String := inspectList (items.map quoteString)

/-- A truth value. -/
def inspectBool (b : Bool) : String := if b then "true" else "false"

/-- A name and named fields, each of which is inspected already. -/
def inspectFields (name : String) (fields : List (String × String)) : String :=
  name ++ " \x7b " ++ ", ".intercalate (fields.map fun f => f.1 ++ ": " ++ f.2) ++ " \x7d"

end RecordDiff.Text
