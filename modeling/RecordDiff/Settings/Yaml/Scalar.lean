import RecordDiff.Settings.Yaml.Cursor
import RecordDiff.Json.Reader

/-!
# Scalars in YAML text

A scalar is plain, in quotes, or a block of lines. Ends of lines inside a scalar are folded: a
single one becomes a space, and of several the first is dropped. A block keeps its lines when it is
literal.

## Main definitions

* `Yaml.takePlain?` - plain scalars
* `Yaml.takeQuoted?` - scalars in single or double quotes
* `Yaml.takeBlock?` - blocks of lines
-/

namespace RecordDiff.Yaml

/-! ### White space inside scalars -/

/-- White space between two words of a scalar: blanks within a line, or the ends of lines. -/
structure Gap where
  blanks : List Char
  breaks : List Char
  deriving Repr

/-- No white space. -/
def Gap.empty : Gap := ⟨[], []⟩

/-- The gap holds the end of a line. -/
def Gap.hasBreak (g : Gap) : Bool := !g.breaks.isEmpty

/-- What the ends of lines become: a newline alone a space, and of several the first is dropped
if it is a newline. -/
def foldBreaks : List Char → List Char
  | [] => []
  | first :: more => if first == '\n' then (if more.isEmpty then [' '] else more) else first :: more

/-- What a gap becomes between two words. -/
def Gap.folded (g : Gap) : List Char := if g.hasBreak then foldBreaks g.breaks else g.blanks

/-- The white space at the start. A tab before `indent` at the start of a line is refused. The first
argument bounds the number of steps. -/
def takeGap? (indent : Nat) : Nat → Gap → Cursor → Option (Gap × Cursor)
  | 0, g, c => some (g, c)
  | steps + 1, g, c =>
    match c.rest with
    | [] => some (g, c)
    | a :: _ =>
      if isBreak a then takeGap? indent steps ⟨[], g.breaks ++ [a]⟩ c.next
      else if isBlank a then
        if g.hasBreak then
          if a == '\t' && c.column < indent then none else takeGap? indent steps g c.next
        else takeGap? indent steps { g with blanks := g.blanks ++ [a] } c.next
      else some (g, c)

/-! ### Plain scalars -/

/-- The character is one of those that set off collections in flow style. -/
def isFlowMark (c : Char) : Bool := c == ',' || c == '[' || c == ']' || c == '{' || c == '}'

/-- The characters of a plain scalar up to white space or to what ends it. A colon before a mark
of flow style is refused there. -/
def takePlainWord? (inFlow : Bool) : List Char → Option (List Char)
  | [] => some []
  | a :: rest =>
    if isBlank a || isBreak a then some []
    else if a == ':' && endsWord rest then some []
    else if inFlow && a == ':' && (rest.take 1).any fun b => isFlowMark b || b == '?' then none
    else if inFlow && isFlowMark a then some []
    else (takePlainWord? inFlow rest).map (a :: ·)

/-- The rest of a plain scalar, after a gap that belongs to it only if a word follows. The result
tells whether the scalar was left over the end of a line. The first argument bounds the number of
steps. -/
def takePlainFrom? (inFlow : Bool) (indent : Nat) :
    Nat → Gap → Cursor → Option (List Char × Bool × Cursor)
  | 0, g, c => some ([], g.hasBreak, c)
  | steps + 1, g, c =>
    if c.atDocumentMark || c.rest.head? == some '#' then some ([], g.hasBreak, c)
    else
      match takePlainWord? inFlow c.rest with
      | none => none
      | some word =>
        let afterWord := c.skip word.length
        let left := word.isEmpty && g.hasBreak
        let joined := if word.isEmpty then [] else g.folded ++ word
        match takeGap? indent c.rest.length Gap.empty afterWord with
        | none => none
        | some (gap, after) =>
          if afterWord.rest.isEmpty || after.offset == afterWord.offset then
            some (joined, left, afterWord)
          else if !inFlow && after.column < indent then some (joined, gap.hasBreak, after)
          else
            (takePlainFrom? inFlow indent steps gap after).map fun (more, l, e) =>
              (joined ++ more, l, e)

/-- A plain scalar at the start, whether it was left over the end of a line, and what follows. -/
def takePlain? (inFlow : Bool) (indent : Nat) (c : Cursor) :
    Option (List Char × Bool × Cursor) :=
  takePlainFrom? inFlow indent (c.rest.length + 1) Gap.empty c

/-! ### Quoted scalars -/

/-- The character that a letter stands for after a backslash. -/
def unescaped? (c : Char) : Option Char :=
  if c == '0' then some '\x00'
  else if c == 'a' then some '\x07'
  else if c == 'b' then some '\x08'
  else if c == 't' || c == '\t' then some '\t'
  else if c == 'n' then some '\n'
  else if c == 'v' then some '\x0b'
  else if c == 'f' then some '\x0c'
  else if c == 'r' then some '\r'
  else if c == 'e' then some '\x1b'
  else if c == ' ' || c == '"' || c == '/' || c == '\\' then some c
  else if c == 'N' then some '\u0085'
  else if c == '_' then some '\u00a0'
  else if c == 'L' then some '\u2028'
  else if c == 'P' then some '\u2029'
  else none

/-- The number of hexadecimal digits that a letter asks for after a backslash. -/
def escapeWidth (c : Char) : Nat :=
  if c == 'x' then 2 else if c == 'u' then 4 else if c == 'U' then 8 else 0

/-- The character of an escape by number, if it is one. -/
def numberedChar? (digits : List Char) : Option Char :=
  match Json.hexNumber? digits with
  | none => none
  | some n =>
    if n < 0xD800 || (0xE000 ≤ n && n < 0x110000) then some (Char.ofNat n) else none

/-- The character of an escape after its backslash, and the number of characters that write it. -/
def takeEscape? : List Char → Option (Char × Nat)
  | [] => none
  | e :: more =>
    let width := escapeWidth e
    if width = 0 then (unescaped? e).map fun u => (u, 1)
    else if more.length < width then none
    else (numberedChar? (more.take width)).map fun u => (u, width + 1)

/-- The rest of a scalar after its opening quote, and what follows its closing one. The first
argument bounds the number of steps. -/
def takeQuotedFrom? (quote : Char) : Nat → Cursor → Option (List Char × Cursor)
  | 0, _ => none
  | steps + 1, c =>
    if c.atDocumentMark then none
    else
      match c.rest with
      | [] => none
      | a :: rest =>
        if a == quote then
          if quote == '\'' && rest.head? == some '\'' then
            (takeQuotedFrom? quote steps (c.skip 2)).map fun (s, e) => (quote :: s, e)
          else some ([], c.next)
        else if a == '\\' && quote == '"' then
          if (rest.take 1).any isBreak then
            match takeGap? 0 rest.length ⟨[], []⟩ (c.skip 2) with
            | none => none
            | some (gap, after) => (takeQuotedFrom? quote steps after).map fun (s, e) =>
                (gap.breaks ++ s, e)
          else
            match takeEscape? rest with
            | none => none
            | some (u, width) =>
              (takeQuotedFrom? quote steps (c.skip (width + 1))).map fun (s, e) => (u :: s, e)
        else if isBlank a || isBreak a then
          match takeGap? 0 c.rest.length Gap.empty c with
          | none => none
          | some (gap, after) =>
            (takeQuotedFrom? quote steps after).map fun (s, e) => (gap.folded ++ s, e)
        else (takeQuotedFrom? quote steps c.next).map fun (s, e) => (a :: s, e)

/-- A scalar in quotes at the start, and what follows it. -/
def takeQuoted? (quote : Char) (c : Cursor) : Option (List Char × Cursor) :=
  takeQuotedFrom? quote (c.rest.length + 1) c.next

/-! ### Blocks -/

/-- What happens to the ends of lines at the end of a block: all are dropped, one is kept, or all
are kept. -/
inductive Chomping where
  | strip
  | clip
  | keep
  deriving DecidableEq, Repr

/-- The first line of a block: chomping, and the further indentation if it is given. -/
structure BlockHeader where
  chomping : Chomping
  increment : Nat
  deriving DecidableEq, Repr

/-- The sign of a chomping, if there is one. -/
def takeChomping (c : Cursor) : Chomping × Cursor :=
  match c.rest with
  | '+' :: _ => (.keep, c.next)
  | '-' :: _ => (.strip, c.next)
  | _ => (.clip, c)

/-- The digit of an indentation, if there is one; zero is refused. -/
def takeIncrement? (c : Cursor) : Option (Nat × Cursor) :=
  match c.rest with
  | a :: _ =>
    if a == '0' then none
    else if Digits.isDigit a then some (Digits.digitValue a, c.next)
    else some (0, c)
  | [] => some (0, c)

/-- Chomping and indentation in either order. -/
def takeBlockHeader? (c : Cursor) : Option (BlockHeader × Cursor) := do
  let (chomping, afterSign) := takeChomping c
  let (increment, afterDigit) ← takeIncrement? afterSign
  if afterSign.offset == c.offset then
    let (lateChomping, rest) := takeChomping afterDigit
    return (⟨lateChomping, increment⟩, rest)
  else return (⟨chomping, increment⟩, afterDigit)

/-- Past the blanks and the comment at the end of a header, up to the next line. -/
def takeHeaderEnd? (c : Cursor) : Option Cursor :=
  let afterBlanks := c.skipWhile isBlank
  let afterComment :=
    if afterBlanks.rest.head? == some '#' then afterBlanks.skipWhile fun a => !isBreak a
    else afterBlanks
  if endsLine afterComment.rest then some afterComment.next else none

/-- The empty lines at the start, with the largest column that blanks reach. With an indentation
given, blanks are skipped only up to it. A tab in place of indentation is refused. The first
argument bounds the number of steps. -/
def takeEmptyLines? (indent : Option Nat) :
    Nat → Nat → Cursor → Option (List Char × Nat × Cursor)
  | 0, widest, c => some ([], widest, c)
  | steps + 1, widest, c =>
    let room := match indent with
      | some n => n - c.column
      | none => c.rest.length
    let inside := c.skip (min room (c.rest.takeWhile (· == ' ')).length)
    let reached := max widest inside.column
    let short := match indent with
      | some n => decide (inside.column < n)
      | none => true
    match inside.rest with
    | [] => some ([], reached, inside)
    | a :: _ =>
      if short && a == '\t' then none
      else if isBreak a then
        (takeEmptyLines? indent steps reached inside.next).map fun (breaks, w, e) =>
          (a :: breaks, w, e)
      else some ([], reached, inside)

/-- The lines of a block from the first that is not empty: its text and the ends of lines that
follow it. `pending` holds the end of the line before, and the ends of the empty lines after it;
`afterBlank` says whether that line started with a blank. The first argument bounds the number of
steps. -/
def takeBlockLines? (literal : Bool) (indent : Nat) :
    Nat → List Char → List Char → Bool → Cursor →
      Option (List Char × List Char × List Char × Cursor)
  | 0, lineEnd, empties, _, c => some ([], lineEnd, empties, c)
  | steps + 1, lineEnd, empties, afterBlank, c =>
    if c.column != indent || c.rest.isEmpty then some ([], lineEnd, empties, c)
    else
      let startsBlank := (c.rest.take 1).any isBlank
      let folds := !literal && lineEnd == ['\n'] && !afterBlank && !startsBlank
      let joint :=
        if folds then (if empties.isEmpty then [' '] else empties) else lineEnd ++ empties
      let words := c.rest.takeWhile fun a => !isBreak a
      let atEnd := c.skip words.length
      let ending := atEnd.rest.take 1
      match takeEmptyLines? (some indent) (c.rest.length + 1) 0 atEnd.next with
      | none => none
      | some (more, _, after) =>
        (takeBlockLines? literal indent steps ending more startsBlank after).map
          fun (s, l, e, f) => (joint ++ words ++ s, l, e, f)

/-- A block after its mark, and what follows it. `parent` is the indentation of the collection
around it, if there is one. -/
def takeBlock? (literal : Bool) (parent : Option Nat) (c : Cursor) :
    Option (List Char × Cursor) := do
  let (header, afterHeader) ← takeBlockHeader? c.next
  let start ← takeHeaderEnd? afterHeader
  let given := if header.increment = 0 then none else some (parent.getD 0 + header.increment)
  let (empties, widest, first) ← takeEmptyLines? given (c.rest.length + 1) 0 start
  let least := match parent with
    | some n => n + 1
    | none => 1
  let indent := given.getD (max widest least)
  let (s, lineEnd, others, after) ←
    takeBlockLines? literal indent (c.rest.length + 1) [] empties false first
  let ending := match header.chomping with
    | .strip => []
    | .clip => lineEnd
    | .keep => lineEnd ++ others
  return (s ++ ending, after)

end RecordDiff.Yaml
