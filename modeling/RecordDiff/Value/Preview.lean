import RecordDiff.Value.Basic

/-!
# Values as text

The text of a value is one line: scalars are written out, strings and characters stand in quotes,
and of a collection only the number of its items is shown. A preview is that text cut to a limit.

## Main definitions

* `Value.text` - the text
* `Value.preview` - the text cut to a number of characters
-/

namespace RecordDiff

/-- How many things a collection holds, between its brackets: nothing for none, and the noun in the
singular for one. -/
def countLabel (opening closing singular plural : String) (count : Nat) : String :=
  match count with
  | 0 => opening ++ closing
  | 1 => opening ++ " 1 " ++ singular ++ " " ++ closing
  | n => opening ++ " " ++ Digits.intText n ++ " " ++ plural ++ " " ++ closing

namespace Value

/-- The number of items of an array or a list. -/
def itemsLabel (count : Nat) : String := countLabel "[" "]" "item" "items" count

/-- The number of entries of a map. -/
def entriesLabel (count : Nat) : String := countLabel "\x7b" "\x7d" "entry" "entries" count

/-- The number of fields of a record. -/
def fieldsLabel (count : Nat) : String := countLabel "\x7b" "\x7d" "field" "fields" count

/-- The text of a value on one line. -/
def text : Value → String
  | .null => "null"
  | .bool b => if b then "true" else "false"
  | .byte n => Digits.intText n.toInt
  | .short n => Digits.intText n.toInt
  | .char c => "'" ++ String.singleton c ++ "'"
  | .int n => Digits.intText n.toInt
  | .long n => Digits.intText n.toInt
  | .float x => x.text
  | .double x => x.text
  | .string s => "\"" ++ s ++ "\""
  | .decimal d => d.text
  | .locale l => l.tag
  | .timestamp t => t.text
  | .boolArray xs => itemsLabel xs.length
  | .byteArray xs => itemsLabel xs.length
  | .shortArray xs => itemsLabel xs.length
  | .charArray xs => itemsLabel xs.length
  | .intArray xs => itemsLabel xs.length
  | .longArray xs => itemsLabel xs.length
  | .floatArray xs => itemsLabel xs.length
  | .doubleArray xs => itemsLabel xs.length
  | .list items => itemsLabel items.length
  | .map entries => entriesLabel entries.length
  | .record typeName fields => typeName ++ " " ++ fieldsLabel fields.length

/-- The dots that stand for the part of a text that was cut off. -/
def ellipsis : String := "..."

/-- A text as it is when it has at most `limit` characters; otherwise its beginning and the dots,
with room left for the dots when the limit has it. -/
def shorten (limit : Nat) (s : String) : String :=
  if limit < s.length then String.ofList (s.toList.take (limit - ellipsis.length)) ++ ellipsis
  else s

/-- The text of a value, cut to `limit` characters. -/
def preview (limit : Nat) (v : Value) : String := shorten limit v.text

end Value

end RecordDiff
