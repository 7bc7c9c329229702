import RecordDiff.Json.Reader
import RecordDiff.Settings.Basic

/-!
# Settings in TOML

Settings are a document of lines `key = value` with a string, a truth value or an array of strings
behind each key. Tables, dotted keys, numbers and dates can never be settings and are refused where
they start.

## Main definitions

* `Toml.takeString?` - the four sorts of strings
* `Toml.takeValue?` - values
* `Settings.ofTomlText?` - the settings written in TOML
-/

namespace RecordDiff

namespace Toml

/-- The blanks within a line. -/
def isSpace (c : Char) : Bool := c == ' ' || c == '\t'

/-- What follows the blanks at the start of a line. -/
def skipSpace (cs : List Char) : List Char := cs.dropWhile isSpace

/-- The character may stand in a comment or a string: it is no control character but a tab. -/
def isPrintable (c : Char) : Bool := c == '\t' || (' ' ≤ c && c != '\x7f')

/-- What follows the end of a line. -/
def takeNewline? : List Char → Option (List Char)
  | '\n' :: rest => some rest
  | '\r' :: '\n' :: rest => some rest
  | _ => none

/-- What follows a comment, if one starts here. -/
def skipComment : List Char → List Char
  | '#' :: rest => rest.dropWhile isPrintable
  | cs => cs

/-! ### Strings -/

/-- The character of an escape by number, if it is one. -/
def numberedChar? (digits : List Char) : Option Char :=
  match Json.hexNumber? digits with
  | none => none
  | some n =>
    if n < 0xD800 || (0xE000 ≤ n && n < 0x110000) then some (Char.ofNat n) else none

/-- The character that a letter stands for after a backslash. -/
def unescaped? (c : Char) : Option Char := if c == '/' then none else Json.unescaped? c

/-- Where a string ends and what it may hold: its mark, whether it runs over several lines, and
whether a backslash escapes. -/
structure Quoting where
  mark : Char
  multiline : Bool
  escapes : Bool
  deriving DecidableEq, Repr

/-- What follows an escaped end of line: the blanks and the ends of lines after it are left out. -/
def skipFolded : List Char → List Char
  | '\r' :: '\n' :: rest => skipFolded rest
  | c :: rest => if isSpace c || c == '\n' then skipFolded rest else c :: rest
  | [] => []

/-- The end of a line follows, after blanks perhaps. -/
def startsFold (cs : List Char) : Bool := (takeNewline? (skipSpace cs)).isSome

/-- The marks at the end of a string over several lines: up to two of them belong to it. -/
def closingMarks? (mark : Char) (cs : List Char) : Option (List Char × List Char) :=
  let count := (cs.takeWhile (· == mark)).length
  if count < 3 then none
  else
    let kept := min (count - 3) 2
    some (List.replicate kept mark, cs.drop (kept + 3))

/-- The rest of a string after its opening marks, and what follows its closing ones. The first
argument bounds the number of steps. -/
def takeBody? (q : Quoting) : Nat → List Char → Option (List Char × List Char)
  | 0, _ => none
  | _ + 1, [] => none
  | steps + 1, c :: rest =>
    if c == q.mark then
      if q.multiline then
        match closingMarks? q.mark (c :: rest) with
        | some closed => some closed
        | none => (takeBody? q steps rest).map fun (s, after) => (c :: s, after)
      else some ([], rest)
    else if c == '\\' && q.escapes then
      if q.multiline && startsFold rest then takeBody? q steps (skipFolded rest)
      else
        match rest with
        | [] => none
        | e :: more =>
          let width := if e == 'u' then 4 else if e == 'U' then 8 else 0
          let char? :=
            if width = 0 then unescaped? e
            else if more.length < width then none
            else numberedChar? (more.take width)
          match char? with
          | none => none
          | some u => (takeBody? q steps (more.drop width)).map fun (s, after) => (u :: s, after)
    else if isPrintable c then
      (takeBody? q steps rest).map fun (s, after) => (c :: s, after)
    else if q.multiline then
      match takeNewline? (c :: rest) with
      | some more => (takeBody? q steps more).map fun (s, after) => ('\n' :: s, after)
      | none => none
    else none

/-- The body of a string over several lines starts on the next line if its own is empty. -/
def skipFirstNewline (cs : List Char) : List Char := (takeNewline? cs).getD cs

/-- A string at the start, and what follows it. -/
def takeString? (cs : List Char) : Option (List Char × List Char) :=
  match cs with
  | '"' :: '"' :: '"' :: rest => takeBody? ⟨'"', true, true⟩ cs.length (skipFirstNewline rest)
  | '\'' :: '\'' :: '\'' :: rest => takeBody? ⟨'\'', true, false⟩ cs.length (skipFirstNewline rest)
  | '"' :: rest => takeBody? ⟨'"', false, true⟩ cs.length rest
  | '\'' :: rest => takeBody? ⟨'\'', false, false⟩ cs.length rest
  | _ => none

/-! ### Values -/

/-- What follows blanks, comments and ends of lines. The first argument bounds the number of
steps. -/
def skipLines : Nat → List Char → List Char
  | 0, cs => cs
  | steps + 1, cs =>
    let start := skipComment (skipSpace cs)
    match takeNewline? start with
    | some rest => skipLines steps rest
    | none => start

/-- The strings of an array up to its end. A comma may stand before the end. -/
def takeItems? : Nat → List Char → Option (List String × List Char)
  | 0, _ => none
  | steps + 1, cs =>
    match skipLines cs.length cs with
    | ']' :: rest => some ([], rest)
    | start =>
      match takeString? start with
      | none => none
      | some (s, after) =>
        match skipLines after.length after with
        | ']' :: rest => some ([String.ofList s], rest)
        | ',' :: rest =>
          (takeItems? steps rest).map fun (items, more) => (String.ofList s :: items, more)
        | _ => none

/-- A value at the start, and what follows it. -/
def takeValue? (cs : List Char) : Option (Settings.FieldValue × List Char) :=
  match cs with
  | '[' :: rest => (takeItems? cs.length rest).map fun (items, after) => (.names items, after)
  | 't' :: rest => (Json.takeWord? "rue" rest).map fun after => (.flag true, after)
  | 'f' :: rest => (Json.takeWord? "alse" rest).map fun after => (.flag false, after)
  | _ => none

/-! ### Documents -/

/-- The character may stand in a key without quotes. -/
def isKeyChar (c : Char) : Bool :=
  ('a' ≤ c && c ≤ 'z') || ('A' ≤ c && c ≤ 'Z') || Digits.isDigit c || c == '_' || c == '-'

/-- A key at the start, plain or in quotes, and what follows it. -/
def takeKey? (cs : List Char) : Option (String × List Char) :=
  match cs with
  | '"' :: rest =>
    (takeBody? ⟨'"', false, true⟩ cs.length rest).map fun (s, after) => (String.ofList s, after)
  | '\'' :: rest =>
    (takeBody? ⟨'\'', false, false⟩ cs.length rest).map fun (s, after) => (String.ofList s, after)
  | _ =>
    let key := cs.takeWhile isKeyChar
    if key.isEmpty then none else some (String.ofList key, cs.dropWhile isKeyChar)

/-- A key, the equals sign and a value, and what follows them. -/
def takeAssignment? (cs : List Char) : Option ((String × Settings.FieldValue) × List Char) := do
  let (key, afterKey) ← takeKey? cs
  match skipSpace afterKey with
  | '=' :: rest =>
    let (value, after) ← takeValue? (skipSpace rest)
    return ((key, value), after)
  | _ => none

/-- The rest of a line may hold blanks and a comment; what follows is the next line. -/
def takeLineEnd? (cs : List Char) : Option (List Char) :=
  match skipComment (skipSpace cs) with
  | [] => some []
  | start => takeNewline? start

/-- The assignments of a document, line by line. -/
def takeDocument? : Nat → List Char → Option (List (String × Settings.FieldValue))
  | 0, _ => none
  | steps + 1, cs =>
    match skipLines cs.length cs with
    | [] => some []
    | start =>
      match takeAssignment? start with
      | none => none
      | some (field, after) =>
        match takeLineEnd? after with
        | none => none
        | some rest => (takeDocument? steps rest).map (field :: ·)

/-- The text without a mark of its byte order. -/
def dropByteOrderMark : List Char → List Char
  | '\uFEFF' :: rest => rest
  | cs => cs

end Toml

/-- The settings written in TOML. -/
def Settings.ofTomlText? (s : String) : Option Settings :=
  let cs := Toml.dropByteOrderMark s.toList
  (Toml.takeDocument? (cs.length + 1) cs).bind Settings.ofFields?

end RecordDiff
