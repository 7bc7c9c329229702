import RecordDiff.Text.CaseMap
import RecordDiff.Text.CaseClass

/-!
# Lower and upper case of a text

Each character is replaced by its full case form, which may be several characters. One form looks
at its neighbours: a capital sigma that ends a word becomes the final small sigma.

## Main definitions

* `lowerChar`, `upperChar` - the full forms of one character
* `lowercase`, `uppercase` - the forms of a text
-/

namespace RecordDiff.Text

/-- The case form of a character under a table of runs and a table of expansions. -/
def caseForm (runs : List CaseMap.Run) (expansions : List (Nat × List Nat)) (c : Char) :
    List Char :=
  match expansions.find? (·.1 == c.toNat) with
  | some (_, form) => form.map Char.ofNat
  | none =>
    match runs.find? (·.holds c.toNat) with
    | some run => [Char.ofNat (run.form c.toNat)]
    | none => [c]

/-- The lower case form of a character, apart from its neighbours. -/
def lowerChar (c : Char) : List Char := caseForm CaseMap.lowerRuns CaseMap.lowerExpansions c

/-- The upper case form of a character. -/
def upperChar (c : Char) : List Char := caseForm CaseMap.upperRuns CaseMap.upperExpansions c

/-- The first character that is not passed over has a case. -/
def meetsCased (cs : List Char) : Bool :=
  match cs.dropWhile isCaseIgnorable with
  | [] => false
  | c :: _ => isCased c

/-- A sigma ends a word when a cased letter stands before it and none after it. -/
def isWordFinal (before after : List Char) : Bool := meetsCased before && !meetsCased after

/-- Lower case of the rest of a text; `before` holds the characters already passed, last first. -/
def lowerFrom (before : List Char) : List Char → List Char
  | [] => []
  | c :: rest =>
    (if c == 'Σ' then [if isWordFinal before rest then 'ς' else 'σ'] else lowerChar c) ++
      lowerFrom (c :: before) rest

/-- The text in lower case. -/
def lowercase (s : String) : String := String.ofList (lowerFrom [] s.toList)

/-- The text in upper case. -/
def uppercase (s : String) : String := String.ofList (s.toList.flatMap upperChar)

end RecordDiff.Text
