import RecordDiff.Settings.Yaml.Scalar

/-!
# Tags and directives in YAML text

A tag names the type of a node. It is written in full between angle brackets, or with a handle that
stands for the beginning of its name. Directives stand on lines of their own before a document: one
gives the version of the format, the others say what handles stand for.

Characters outside the alphabet of tags are written as octets in hexadecimal. Such an octet is kept
as the character of its number.

## Main definitions

* `Yaml.Tag`, `Yaml.takeTag?` - tags
* `Yaml.Directive`, `Yaml.takeDirective?` - directives
* `Yaml.Tag.fullName?` - the name that a tag stands for
-/

namespace RecordDiff.Yaml

/-- A tag: its handle, which is empty if the tag is written in full, and the rest of its name. -/
structure Tag where
  handle : String
  rest : String
  deriving DecidableEq, Repr

/-- A line before a document. -/
inductive Directive where
  | version (major minor : Nat)
  | abbreviation (handle expansion : String)
  deriving DecidableEq, Repr

/-- What handles stand for if no directive says otherwise. -/
def standardAbbreviations : List (String × String) := [("!", "!"), ("!!", "tag:yaml.org,2002:")]

/-- The name of a tag in full, if its handle is known. -/
def Tag.fullName? (abbreviations : List (String × String)) (t : Tag) : Option String :=
  if t.handle = "" then some t.rest
  else ((abbreviations ++ standardAbbreviations).lookup t.handle).map (· ++ t.rest)

/-! ### The text of tags -/

/-- The signs that may stand in a tag. -/
def tagSigns : List Char :=
  [';', '/', '?', ':', '@', '&', '=', '+', '$', '.', '!', '~', '*', '\'', '(', ')']

/-- The character may stand in a tag; in a tag in full some marks of flow style may as well. -/
def isTagChar (full : Bool) (c : Char) : Bool :=
  isNameChar c || tagSigns.contains c || (full && (c == ',' || c == '[' || c == ']'))

/-- An octet in hexadecimal after a percent sign, and what follows it. -/
def takeOctet? : List Char → Option (Nat × List Char)
  | '%' :: a :: b :: rest => (Json.hexNumber? [a, b]).map fun n => (n, rest)
  | _ => none

/-- The number of octets that have to follow a first one. -/
def followers? (octet : Nat) : Option Nat :=
  if octet < 0x80 then some 0
  else if 0xC0 ≤ octet && octet < 0xE0 then some 1
  else if 0xE0 ≤ octet && octet < 0xF0 then some 2
  else if 0xF0 ≤ octet && octet < 0xF8 then some 3
  else none

/-- Octets that follow a first one. -/
def takeFollowers? : Nat → List Char → Option (List Char × List Char)
  | 0, cs => some ([], cs)
  | count + 1, cs => do
    let (octet, rest) ← takeOctet? cs
    if octet < 0x80 || 0xC0 ≤ octet then none
    let (others, after) ← takeFollowers? count rest
    return (Char.ofNat octet :: others, after)

/-- The longest text of a tag at the start, and what follows it. The first argument bounds the
number of steps. -/
def takeTagText? (full : Bool) : Nat → List Char → Option (List Char × List Char)
  | 0, cs => some ([], cs)
  | steps + 1, cs =>
    match cs with
    | [] => some ([], [])
    | c :: rest =>
      if c == '%' then do
        let (octet, afterFirst) ← takeOctet? cs
        let count ← followers? octet
        let (others, afterOthers) ← takeFollowers? count afterFirst
        let (text, after) ← takeTagText? full steps afterOthers
        return (Char.ofNat octet :: (others ++ text), after)
      else if isTagChar full c then
        (takeTagText? full steps rest).map fun (text, after) => (c :: text, after)
      else some ([], cs)

/-- The text of a tag of one character at least. -/
def takeSomeTagText? (full : Bool) (cs : List Char) : Option (String × List Char) := do
  let (text, after) ← takeTagText? full cs.length cs
  if text.isEmpty then none
  return (String.ofList text, after)

/-! ### Tags -/

/-- The parts of a tag after its first exclamation mark, and what follows it. -/
def takeTagParts? : List Char → Option (Tag × List Char)
  | '<' :: rest => do
    let (name, after) ← takeSomeTagText? true rest
    match after with
    | '>' :: more => return (⟨"", name⟩, more)
    | _ => none
  | cs =>
    let name := cs.takeWhile isNameChar
    match cs.dropWhile isNameChar with
    | '!' :: rest => do
      let (ending, after) ← takeSomeTagText? false rest
      return (⟨String.ofList (['!'] ++ name ++ ['!']), ending⟩, after)
    | rest => do
      let (ending, after) ← takeTagText? false rest.length rest
      let text := name ++ ending
      return (if text.isEmpty then ⟨"", "!"⟩ else ⟨"!", String.ofList text⟩, after)

/-- A tag ends before white space, and in flow style before a comma. -/
def endsTag (inFlow : Bool) (cs : List Char) : Bool :=
  endsWord cs || (inFlow && cs.head? == some ',')

/-- The cursor at the place where a shorter rest of the same line starts. -/
def Cursor.forwardTo (c : Cursor) (rest : List Char) : Cursor :=
  c.skip (c.rest.length - rest.length)

/-- A tag at the start, and what follows it. -/
def takeTag? (inFlow : Bool) (c : Cursor) : Option (Tag × Cursor) := do
  let (tag, after) ← takeTagParts? (c.rest.drop 1)
  if endsTag inFlow after then return (tag, c.forwardTo after) else none

/-! ### Directives -/

/-- A number of a version, of one to nine digits, and what follows it. -/
def takeVersionNumber? (cs : List Char) : Option (Nat × List Char) :=
  let digits := cs.takeWhile Digits.isDigit
  if digits.isEmpty || 9 < digits.length then none
  else some (Digits.value digits, cs.dropWhile Digits.isDigit)

/-- Two numbers with a point between them. -/
def takeVersion? (cs : List Char) : Option (Directive × List Char) := do
  let (major, afterMajor) ← takeVersionNumber? cs
  match afterMajor with
  | '.' :: rest =>
    let (minor, after) ← takeVersionNumber? rest
    return (.version major minor, after)
  | _ => none

/-- A handle: an exclamation mark alone, or a name between two of them. -/
def takeHandle? : List Char → Option (String × List Char)
  | '!' :: rest =>
    let name := rest.takeWhile isNameChar
    match rest.dropWhile isNameChar with
    | '!' :: after => some (String.ofList (['!'] ++ name ++ ['!']), after)
    | after => if name.isEmpty then some ("!", after) else none
  | _ => none

/-- A handle and what it stands for, with blanks between them. -/
def takeAbbreviation? (cs : List Char) : Option (Directive × List Char) := do
  let (handle, afterHandle) ← takeHandle? cs
  if !(afterHandle.take 1).any isBlank then none
  let (expansion, after) ← takeSomeTagText? true (afterHandle.dropWhile isBlank)
  if endsWord after then return (.abbreviation handle expansion, after) else none

/-- A directive from its percent sign to the end of its line, and what follows. -/
def takeDirective? (c : Cursor) : Option (Directive × Cursor) := do
  let name := (c.rest.drop 1).takeWhile isNameChar
  let afterName := c.skip (name.length + 1)
  if !endsWord afterName.rest then none
  let start := afterName.skipWhile isBlank
  let (directive, after) ← match String.ofList name with
    | "YAML" => takeVersion? start.rest
    | "TAG" => takeAbbreviation? start.rest
    | _ => none
  let next ← takeHeaderEnd? (start.forwardTo after)
  return (directive, next)

end RecordDiff.Yaml
