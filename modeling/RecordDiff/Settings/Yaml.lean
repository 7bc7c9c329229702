import RecordDiff.Settings.Basic
import RecordDiff.Settings.Yaml.Node

/-!
# Settings in YAML

Settings are a mapping with the fields as keys. A list of names is a sequence of scalars, each of
which is its text however it is written; a field without a value is an empty list, and a text
without a document says nothing.
-/

namespace RecordDiff.Settings

/-- The text of a scalar. -/
def textOfNode? (given : List (Nat × Yaml.Node)) (node : Yaml.Node) : Option String :=
  match node.content given with
  | .scalar _ _ text => some text
  | _ => none

/-- The truth value of a text. -/
def flagOfText? (text : String) : Option Bool :=
  if text = "true" || text = "True" || text = "TRUE" then some true
  else if text = "false" || text = "False" || text = "FALSE" then some false
  else none

/-- The tag of truth values. -/
def flagTag : String := "tag:yaml.org,2002:bool"

/-- The scalar may be a truth value: it is plain, or a block of lines with the tag for that. -/
def mayBeFlag (style : Yaml.ScalarStyle) (tag? : Option String) : Bool :=
  style == .plain || (style == .literal && tag? == some flagTag)

/-- A field value: a sequence of scalars, nothing, or a truth value. -/
def fieldOfNode? (given : List (Nat × Yaml.Node)) (node : Yaml.Node) : Option FieldValue :=
  match node.content given with
  | .sequence items => (items.mapM (textOfNode? given)).map .names
  | .scalar style tag? text =>
    if style == .plain && text = "" then some (.names [])
    else if mayBeFlag style tag? then (flagOfText? text).map .flag
    else none
  | _ => none

/-- The settings that a document is. -/
def ofNode? (root : Yaml.Node) : Option Settings :=
  let given := root.numbered
  match root.content given with
  | .mapping entries => do
    let fields ← entries.mapM fun e => do
      let key ← textOfNode? given e.1
      let value ← fieldOfNode? given e.2
      return (key, value)
    ofFields? fields
  | .scalar .plain _ text => if text = "" then some default else none
  | _ => none

/-- The settings written in YAML. -/
def ofYamlText? (s : String) : Option Settings :=
  ((Yaml.tokens? s).bind Yaml.Node.ofTokens?).bind ofNode?

end RecordDiff.Settings
