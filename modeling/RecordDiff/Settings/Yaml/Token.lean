import RecordDiff.Settings.Yaml.Tag

/-!
# Tokens of YAML text

Indentation is made explicit: the start of a block collection and its end are tokens of their own,
and so is every key. A key without a mark is known only when its colon comes; until then its place
among the tokens is remembered, and the token is put there afterwards. Such a key has to lie on one
line and within 1024 characters.

## Main definitions

* `Yaml.ScalarStyle` - how a scalar is written
* `Yaml.Token` - the tokens
* `Yaml.ScanState` - the state between two tokens
* `Yaml.tokens?` - the tokens of a text
-/

namespace RecordDiff.Yaml

/-- How a scalar is written: plainly, in quotes, or as a block of lines that are kept or folded. -/
inductive ScalarStyle where
  | plain
  | quoted
  | literal
  | folded
  deriving DecidableEq, Repr, Inhabited

/-- The tokens of a text. -/
inductive Token where
  | directive (d : Directive)
  | documentStart
  | documentEnd
  | blockSequenceStart
  | blockMappingStart
  | blockEnd
  | flowSequenceStart
  | flowSequenceEnd
  | flowMappingStart
  | flowMappingEnd
  | blockEntry
  | flowEntry
  | key
  | value
  | alias (name : String)
  | anchor (name : String)
  | tag (t : Tag)
  | scalar (style : ScalarStyle) (text : String)
  deriving DecidableEq, Repr

/-- A place where a key may have started: the number of tokens before it, where it stands, and
whether the text is wrong if no colon follows. -/
structure PendingKey where
  required : Bool
  tokens : Nat
  line : Nat
  column : Nat
  offset : Nat
  deriving Repr

/-- The state between two tokens. The indentations of the open block collections and the pending
keys of the open flow collections are kept innermost first. -/
structure ScanState where
  cursor : Cursor
  tokens : Array Token
  /-- The columns of the open block collections. -/
  indents : List Nat
  /-- The pending key of each open flow collection, and that of the text itself last. -/
  pending : List (Option PendingKey)
  /-- A key may start here. -/
  keyAllowed : Bool

namespace ScanState

/-- The start of a text. -/
def start (c : Cursor) : ScanState := ⟨c, #[], [], [none], true⟩

/-- The state lies inside a flow collection. -/
def inFlow (s : ScanState) : Bool := 1 < s.pending.length

/-- Appends a token. -/
def push (s : ScanState) (t : Token) : ScanState := { s with tokens := s.tokens.push t }

/-- Puts a token before the token of a number. -/
def insertAt (s : ScanState) (n : Nat) (t : Token) : ScanState :=
  { s with tokens := (s.tokens.toList.take n ++ t :: s.tokens.toList.drop n).toArray }

/-! ### Indentation -/

/-- The columns of the collections that stay open at a column, and the number of the others. -/
def openAt (keeps : Nat → Bool) : List Nat → List Nat × Nat
  | [] => ([], 0)
  | i :: rest =>
    if keeps i then (i :: rest, 0)
    else
      let (kept, closed) := openAt keeps rest
      (kept, closed + 1)

/-- Closes the block collections that `keeps` does not hold on to. -/
def close (s : ScanState) (keeps : Nat → Bool) : ScanState :=
  if s.inFlow then s
  else
    let (kept, closed) := openAt keeps s.indents
    { s with indents := kept, tokens := s.tokens ++ Array.replicate closed .blockEnd }

/-- Closes the block collections that are further in than the column. -/
def closeTo (s : ScanState) (column : Nat) : ScanState := s.close fun i => i ≤ column

/-- The column lies further in than all open block collections. -/
def isDeeper (s : ScanState) (column : Nat) : Bool := s.indents.all (· < column)

/-- Opens a block collection at a column, before the token of a number, unless one is open
there. -/
def openAtColumn (s : ScanState) (column n : Nat) (t : Token) : ScanState :=
  if s.inFlow || !s.isDeeper column then s
  else { s.insertAt n t with indents := column :: s.indents }

/-! ### Keys -/

/-- A pending key that the cursor has left behind is given up, unless it was required. -/
def stillPending? (c : Cursor) : Option PendingKey → Option (Option PendingKey)
  | none => some none
  | some k =>
    if k.line < c.line || k.offset + 1024 < c.offset then
      if k.required then none else some none
    else some (some k)

/-- The state with the pending keys given up that were left behind. -/
def dropStale? (s : ScanState) : Option ScanState := do
  let pending ← s.pending.mapM (stillPending? s.cursor)
  return { s with pending }

/-- The pending key of the innermost collection. -/
def pendingKey? (s : ScanState) : Option PendingKey := s.pending.head?.join

/-- The state with another pending key of the innermost collection. -/
def withPending (s : ScanState) (k : Option PendingKey) : ScanState :=
  { s with pending := k :: s.pending.tail }

/-- Gives up the pending key, which is wrong if it was required. -/
def dropPending? (s : ScanState) : Option ScanState :=
  match s.pendingKey? with
  | some k => if k.required then none else some (s.withPending none)
  | none => some s

/-- Remembers that a key may start here, if one is allowed. -/
def savePending? (s : ScanState) : Option ScanState :=
  if s.keyAllowed then do
    let c := s.cursor
    let required := !s.inFlow && s.indents.head? == some c.column
    let cleared ← s.dropPending?
    return cleared.withPending (some ⟨required, s.tokens.size, c.line, c.column, c.offset⟩)
  else some s

/-! ### Single tokens -/

/-- The state after a token of some characters, after which a key may start or not. -/
def advance (s : ScanState) (t : Token) (width : Nat) (keyAllowed : Bool) : ScanState :=
  { s.push t with cursor := s.cursor.skip width, keyAllowed }

/-- The start or the end of a document. -/
def scanDocumentMark? (s : ScanState) (t : Token) : Option ScanState := do
  let closed ← (s.close fun _ => false).dropPending?
  return closed.advance t 3 false

/-- A directive. -/
def scanDirective? (s : ScanState) : Option ScanState := do
  let closed ← (s.close fun _ => false).dropPending?
  let (directive, after) ← takeDirective? s.cursor
  return { closed.push (.directive directive) with cursor := after, keyAllowed := false }

/-- The start of a flow collection. -/
def scanFlowStart? (s : ScanState) (t : Token) : Option ScanState := do
  let saved ← s.savePending?
  return { saved.advance t 1 true with pending := none :: saved.pending }

/-- The end of a flow collection. -/
def scanFlowEnd? (s : ScanState) (t : Token) : Option ScanState := do
  let cleared ← s.dropPending?
  let outer := if cleared.inFlow then cleared.pending.tail else cleared.pending
  return { cleared.advance t 1 false with pending := outer }

/-- A comma in a flow collection. -/
def scanFlowEntry? (s : ScanState) : Option ScanState := do
  let cleared ← s.dropPending?
  return cleared.advance .flowEntry 1 true

/-- The hyphen of an item of a block sequence. -/
def scanBlockEntry? (s : ScanState) : Option ScanState := do
  if !s.inFlow && !s.keyAllowed then none
  let opened := s.openAtColumn s.cursor.column s.tokens.size .blockSequenceStart
  let cleared ← opened.dropPending?
  return cleared.advance .blockEntry 1 true

/-- The mark of a key. -/
def scanKey? (s : ScanState) : Option ScanState := do
  if !s.inFlow && !s.keyAllowed then none
  let opened := s.openAtColumn s.cursor.column s.tokens.size .blockMappingStart
  let cleared ← opened.dropPending?
  return cleared.advance .key 1 (!s.inFlow)

/-- The colon of a value. A pending key becomes a key now. -/
def scanValue? (s : ScanState) : Option ScanState :=
  match s.pendingKey? with
  | some k =>
    let keyed := (s.withPending none).insertAt k.tokens .key
    let opened := keyed.openAtColumn k.column k.tokens .blockMappingStart
    some (opened.advance .value 1 false)
  | none =>
    if !s.inFlow && !s.keyAllowed then none
    else
      let opened := s.openAtColumn s.cursor.column s.tokens.size .blockMappingStart
      some (opened.advance .value 1 (!s.inFlow))

/-- The characters before which the name of an anchor or an alias may end. -/
def nameEnders : List Char := ['?', ':', ',', ']', '}', '%', '@', '\x60']

/-- The name of an anchor or an alias may end here. -/
def endsName : List Char → Bool
  | [] => true
  | c :: _ => isBlank c || isBreak c || nameEnders.contains c

/-- An anchor or an alias. -/
def scanName? (s : ScanState) (t : String → Token) : Option ScanState := do
  let saved ← s.savePending?
  let name := (s.cursor.rest.drop 1).takeWhile isNameChar
  if name.isEmpty || !endsName (s.cursor.rest.drop (name.length + 1)) then none
  return saved.advance (t (String.ofList name)) (name.length + 1) false

/-- A tag. -/
def scanTag? (s : ScanState) : Option ScanState := do
  let saved ← s.savePending?
  let (tag, after) ← takeTag? s.inFlow s.cursor
  return { saved.push (.tag tag) with cursor := after, keyAllowed := false }

/-- A scalar in quotes. -/
def scanQuoted? (s : ScanState) (quote : Char) : Option ScanState := do
  let saved ← s.savePending?
  let (cs, after) ← takeQuoted? quote s.cursor
  return { saved.push (.scalar .quoted (String.ofList cs)) with
    cursor := after, keyAllowed := false }

/-- A plain scalar. -/
def scanPlain? (s : ScanState) : Option ScanState := do
  let saved ← s.savePending?
  let indent := match s.indents with
    | i :: _ => i + 1
    | [] => 0
  let (cs, leftLine, after) ← takePlain? s.inFlow indent s.cursor
  return { saved.push (.scalar .plain (String.ofList cs)) with
    cursor := after, keyAllowed := leftLine }

/-- A block of lines. -/
def scanBlock? (s : ScanState) (literal : Bool) : Option ScanState := do
  let cleared ← s.dropPending?
  let (cs, after) ← takeBlock? literal s.indents.head? s.cursor
  let style := if literal then ScalarStyle.literal else ScalarStyle.folded
  return { cleared.push (.scalar style (String.ofList cs)) with cursor := after, keyAllowed := true }

/-! ### The whole text -/

/-- Past blanks, comments, ends of lines and marks of a byte order. After the end of a line a key may start, and where one
may start a tab is not skipped. The first argument bounds the number of steps. -/
def skipToToken : Nat → ScanState → ScanState
  | 0, s => s
  | steps + 1, s =>
    match s.cursor.rest with
    | [] => s
    | a :: _ =>
      if a == ' ' || (a == '\t' && (s.inFlow || !s.keyAllowed)) ||
          (a == byteOrderMark && s.cursor.column == 0) then
        skipToToken steps { s with cursor := s.cursor.next }
      else if a == '#' then
        skipToToken steps { s with cursor := s.cursor.skipWhile fun b => !isBreak b }
      else if isBreak a then
        skipToToken steps
          { s with cursor := s.cursor.next, keyAllowed := s.keyAllowed || !s.inFlow }
      else s

/-- The characters that have a meaning of their own at the start of a word. -/
def indicators : List Char :=
  [',', '[', ']', '{', '}', '#', '&', '*', '!', '|', '>', '\'', '"', '%', '@', '\x60']

/-- A plain scalar may start with this character and what follows it. -/
def startsPlain (inFlow : Bool) (a : Char) (rest : List Char) : Bool :=
  if a == '-' then !(rest.take 1).any isBlank
  else if a == '?' || a == ':' then !inFlow && !endsWord rest
  else !isBlank a && !isBreak a && !indicators.contains a

/-- The token that starts at the cursor. -/
def scanToken? (s : ScanState) (a : Char) (rest : List Char) : Option ScanState :=
  if s.cursor.column == 0 && a == '%' then s.scanDirective?
  else if s.cursor.atMark '-' then s.scanDocumentMark? .documentStart
  else if s.cursor.atMark '.' then s.scanDocumentMark? .documentEnd
  else if a == '[' then s.scanFlowStart? .flowSequenceStart
  else if a == '{' then s.scanFlowStart? .flowMappingStart
  else if a == ']' then s.scanFlowEnd? .flowSequenceEnd
  else if a == '}' then s.scanFlowEnd? .flowMappingEnd
  else if a == ',' then s.scanFlowEntry?
  else if a == '-' && endsWord rest then s.scanBlockEntry?
  else if a == '?' && (s.inFlow || endsWord rest) then s.scanKey?
  else if a == ':' && (s.inFlow || endsWord rest) then s.scanValue?
  else if a == '*' then s.scanName? .alias
  else if a == '&' then s.scanName? .anchor
  else if a == '!' then s.scanTag?
  else if a == '|' && !s.inFlow then s.scanBlock? true
  else if a == '>' && !s.inFlow then s.scanBlock? false
  else if a == '\'' || a == '"' then s.scanQuoted? a
  else if startsPlain s.inFlow a rest then s.scanPlain?
  else none

/-- All tokens up to the end of the text. The first argument bounds the number of steps. -/
def scan? : Nat → ScanState → Option (Array Token)
  | 0, _ => none
  | steps + 1, s => do
    let ready ← (skipToToken s.cursor.rest.length s).dropStale?
    let closed := ready.closeTo ready.cursor.column
    match closed.cursor.rest with
    | [] =>
      let done ← (closed.close fun _ => false).dropPending?
      return done.tokens
    | a :: rest =>
      let next ← closed.scanToken? a rest
      scan? steps next

end ScanState

/-- The tokens of a text. Every token takes one character at least, which bounds the steps. -/
def tokens? (s : String) : Option (List Token) := do
  let c ← Cursor.ofText? s
  let ts ← ScanState.scan? (c.rest.length + 1) (.start c)
  return ts.toList

end RecordDiff.Yaml
