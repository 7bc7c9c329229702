import RecordDiff.Number.Digits

/-!
# Positions in YAML text

A cursor is the rest of a text with the line and the column where it starts. Ends of lines are
brought to the newline before a cursor is made, so that a line ends with a newline or with one of
the two separators of lines and paragraphs.

## Main definitions

* `Yaml.Cursor` - the rest of a text and its place
* `Yaml.Cursor.ofText?` - the start of a text that holds no forbidden character
-/

namespace RecordDiff.Yaml

/-- The rest of a text, the line and the column of its start, and its distance from the start of
the text. -/
structure Cursor where
  rest : List Char
  line : Nat
  column : Nat
  offset : Nat
  deriving Repr

/-- A space or a tab. -/
def isBlank (c : Char) : Bool := c == ' ' || c == '\t'

/-- The end of a line. -/
def isBreak (c : Char) : Bool := c == '\n' || c == '\u2028' || c == '\u2029'

/-- The text ends here, or a blank or the end of a line follows. -/
def endsWord : List Char → Bool
  | [] => true
  | c :: _ => isBlank c || isBreak c

/-- The text ends here, or the end of a line follows. -/
def endsLine : List Char → Bool
  | [] => true
  | c :: _ => isBreak c

/-- The character may stand in a text. -/
def isAllowed (c : Char) : Bool :=
  let n := c.toNat
  n == 0x09 || n == 0x0A || n == 0x0D || (0x20 ≤ n && n ≤ 0x7E) || n == 0x85 ||
    (0xA0 ≤ n && n ≤ 0xD7FF) || (0xE000 ≤ n && n ≤ 0xFFFD) || 0x10000 ≤ n

/-- The text with every end of a line as one newline. -/
def normalBreaks : List Char → List Char
  | [] => []
  | '\r' :: '\n' :: rest => '\n' :: normalBreaks rest
  | c :: rest => (if c == '\r' || c == '\u0085' then '\n' else c) :: normalBreaks rest

/-- The mark of a byte order, which is passed over at the start of a line. -/
def byteOrderMark : Char := '\uFEFF'

/-- The character may stand in a name. -/
def isNameChar (c : Char) : Bool :=
  ('a' ≤ c && c ≤ 'z') || ('A' ≤ c && c ≤ 'Z') || Digits.isDigit c || c == '_' || c == '-'

namespace Cursor

/-- The start of a text that holds no forbidden character. -/
def ofText? (s : String) : Option Cursor :=
  if s.toList.all isAllowed then some ⟨normalBreaks s.toList, 0, 0, 0⟩ else none

/-- One character further on. -/
def next (c : Cursor) : Cursor :=
  match c.rest with
  | [] => c
  | a :: rest =>
    if isBreak a then ⟨rest, c.line + 1, 0, c.offset + 1⟩
    else ⟨rest, c.line, c.column + 1, c.offset + 1⟩

/-- Some characters further on. -/
def skip (c : Cursor) : Nat → Cursor
  | 0 => c
  | n + 1 => c.next.skip n

/-- Past the characters at the start that satisfy `p`. -/
def skipWhile (p : Char → Bool) (c : Cursor) : Cursor := c.skip (c.rest.takeWhile p).length

/-- A line starts here with the three characters of a mark, which end a word. -/
def atMark (mark : Char) (c : Cursor) : Bool :=
  c.column == 0 && c.rest.take 3 == [mark, mark, mark] && endsWord (c.rest.drop 3)

/-- A line starts here that starts or ends a document. -/
def atDocumentMark (c : Cursor) : Bool := c.atMark '-' || c.atMark '.'

end Cursor

end RecordDiff.Yaml
