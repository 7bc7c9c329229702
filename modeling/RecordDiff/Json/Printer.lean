import RecordDiff.Json.Basic
import RecordDiff.Number.FloatText

/-!
# JSON text

The compact text of a JSON value: no blanks, members in order, doubles in the layout
`FloatLayout.data`, and only those characters escaped that have to be.

## Main definitions

* `Json.text` - the compact text
-/

namespace RecordDiff.Json

/-- The two digits of a number below 256 in hexadecimal. -/
def twoHexDigits (n : Nat) : List Char := [Nat.digitChar (n / 16), Nat.digitChar (n % 16)]

/-- A character inside a JSON string. -/
def escapedChar (c : Char) : List Char :=
  if c == '"' || c == '\\' then ['\\', c]
  else if c == '\n' then ['\\', 'n']
  else if c == '\r' then ['\\', 'r']
  else if c == '\t' then ['\\', 't']
  else if c == '\x08' then ['\\', 'b']
  else if c == '\x0c' then ['\\', 'f']
  else if c < ' ' then ['\\', 'u', '0', '0'] ++ twoHexDigits c.toNat
  else [c]

/-- A text as a JSON string. -/
def stringChars (s : String) : List Char := ['"'] ++ s.toList.flatMap escapedChar ++ ['"']

/-- A finite double as a JSON number; null otherwise. -/
def doubleChars (d : Double) : List Char :=
  if d.isFinite then (FloatFormat.double.text .data d.word).toList else "null".toList

mutual

/-- The characters of the compact text. -/
def chars : Json → List Char
  | .null => "null".toList
  | .bool true => "true".toList
  | .bool false => "false".toList
  | .integer n => Digits.intChars n
  | .double d => doubleChars d
  | .string s => stringChars s
  | .array items => ['['] ++ itemsChars items ++ [']']
  | .object members => ['{'] ++ membersChars members ++ ['}']
termination_by structural j => j

/-- The items of an array with commas between them. -/
def itemsChars : List Json → List Char
  | [] => []
  | [j] => chars j
  | j :: rest => chars j ++ [','] ++ itemsChars rest
termination_by structural items => items

/-- The members of an object with commas between them. -/
def membersChars : List (String × Json) → List Char
  | [] => []
  | [(key, j)] => stringChars key ++ [':'] ++ chars j
  | (key, j) :: rest => stringChars key ++ [':'] ++ chars j ++ [','] ++ membersChars rest
termination_by structural members => members

end

/-- The compact text. -/
def text (j : Json) : String := String.ofList j.chars

end RecordDiff.Json
