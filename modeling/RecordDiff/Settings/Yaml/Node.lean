import RecordDiff.Members
import RecordDiff.Settings.Yaml.Token

/-!
# Nodes of YAML text

The tokens of a text form at most one document, whose root is a node: a scalar, a sequence or a
mapping. Where a node is left out there is an empty plain scalar.

An anchor names the node after it. The node gets as its number the count of the names that were
there before, and an alias has the number that its name has at that place. A number may be given
more than once, because a name that comes again does not raise the count; an alias stands for the
last node in the document that was given its number.

## Main definitions

* `Yaml.Node` - scalars, sequences and mappings, with anchors and aliases
* `Yaml.Node.ofTokens?` - the root of the only document
* `Yaml.Node.numbered`, `Yaml.Node.content` - the nodes behind aliases
-/

namespace RecordDiff.Yaml

/-- A node of a document. Of a scalar it is known how it was written and which tag it has. -/
inductive Node where
  | scalar (style : ScalarStyle) (tag? : Option String) (text : String)
  | sequence (items : List Node)
  | mapping (entries : List (Node × Node))
  | anchored (number : Nat) (node : Node)
  | alias (number : Nat)
  deriving Inhabited

namespace Node

/-- The node that stands where none was written. -/
def missing : Node := .scalar .plain none ""

/-! ### Numbers -/

mutual

/-- The nodes that were given numbers, in the order of the document. -/
def numbered : Node → List (Nat × Node)
  | .scalar .. => []
  | .sequence items => numberedItems items
  | .mapping entries => numberedEntries entries
  | .anchored number node => (number, node) :: numbered node
  | .alias _ => []
termination_by structural node => node

/-- The numbered nodes of the items of a sequence. -/
def numberedItems : List Node → List (Nat × Node)
  | [] => []
  | node :: rest => numbered node ++ numberedItems rest
termination_by structural items => items

/-- The numbered nodes of the entries of a mapping. -/
def numberedEntries : List (Node × Node) → List (Nat × Node)
  | [] => []
  | (key, value) :: rest => numbered key ++ numbered value ++ numberedEntries rest
termination_by structural entries => entries

end

/-- The node itself, without its number if it has one and in place of its alias. -/
def content (given : List (Nat × Node)) : Node → Node
  | .anchored _ node => node
  | .alias number => (given.reverse.lookup number).getD missing
  | node => node

/-! ### Names and tags -/

/-- What a node may refer to: the handles of tags and the names of nodes before it. -/
structure Scope where
  abbreviations : List (String × String)
  numbers : List (String × Nat)

/-- The number for a node of a name, and the scope in which the name has it. -/
def Scope.number (s : Scope) (name : String) : Nat × Scope :=
  let n := s.numbers.length
  (n, { s with numbers := Members.set name n s.numbers })

/-- A node, the scope after it, and the tokens that follow. -/
abbrev Taken (α : Type) := α × Scope × List Token

/-- The name and the tag in front of a node, in either order, and what follows them. -/
def takeProperties : List Token → Option String × Option Tag × List Token
  | .anchor name :: .tag t :: rest => (some name, some t, rest)
  | .tag t :: .anchor name :: rest => (some name, some t, rest)
  | .anchor name :: rest => (some name, none, rest)
  | .tag t :: rest => (none, some t, rest)
  | ts => (none, none, ts)

/-- The name of a tag in full; nothing when there is a tag with an unknown handle. -/
def tagName? (s : Scope) : Option Tag → Option (Option String)
  | none => some none
  | some t => (t.fullName? s.abbreviations).map some

/-- The node with the number of its name if it has one. -/
def withNumber (number? : Option Nat) (node : Node) : Node :=
  match number? with
  | some n => .anchored n node
  | none => node

/-- The scope after a name if there is one, and the number of the name. -/
def Scope.enter (s : Scope) : Option String → Option Nat × Scope
  | some name => let (n, after) := s.number name; (some n, after)
  | none => (none, s)

/-! ### Parts of the tokens -/

/-- A node starts with the first token, apart from its name. Block collections start only where
`block` holds, and sequences without an indentation of their own only where `indentless` does. -/
def startsContent (block indentless : Bool) : List Token → Bool
  | .scalar .. :: _ => true
  | .flowSequenceStart :: _ => true
  | .flowMappingStart :: _ => true
  | .blockSequenceStart :: _ => block
  | .blockMappingStart :: _ => block
  | .blockEntry :: _ => indentless
  | _ => false

/-- The next token starts another item of a block sequence or ends it. -/
def endsItem : List Token → Bool
  | .blockEntry :: _ => true
  | .blockEnd :: _ => true
  | _ => false

/-- The next token starts another part of a block mapping or ends it. -/
def endsPart : List Token → Bool
  | .key :: _ => true
  | .value :: _ => true
  | .blockEnd :: _ => true
  | _ => false

/-- The next token ends the key of a flow mapping. -/
def endsFlowKey : List Token → Bool
  | .value :: _ => true
  | .flowEntry :: _ => true
  | .flowMappingEnd :: _ => true
  | .flowSequenceEnd :: _ => true
  | _ => false

/-- The next token ends the value of a flow mapping. -/
def endsFlowValue : List Token → Bool
  | .flowEntry :: _ => true
  | .flowMappingEnd :: _ => true
  | .flowSequenceEnd :: _ => true
  | _ => false

mutual

/-- A node with its name and its tag if it has them. A node of which there is nothing else is an
empty plain scalar. The first argument bounds the number of steps. -/
def takeNode? (block indentless : Bool) : Nat → Scope → List Token → Option (Taken Node)
  | 0, _, _ => none
  | _ + 1, known, .alias name :: rest =>
    (Members.get? name known.numbers).map fun number => (.alias number, known, rest)
  | steps + 1, known, ts => do
    let (name?, tag?, rest) := takeProperties ts
    let fullName? ← tagName? known tag?
    let (number?, scope) := known.enter name?
    if (name?.isSome || tag?.isSome) && !startsContent block indentless rest then
      return (withNumber number? (.scalar .plain fullName? ""), scope, rest)
    else
      let (node, after) ← takeContent? block indentless fullName? steps scope rest
      return (withNumber number? node, after)

/-- A node apart from its name and its tag. -/
def takeContent? (block indentless : Bool) (tag? : Option String) :
    Nat → Scope → List Token → Option (Taken Node)
  | 0, _, _ => none
  | steps + 1, known, ts =>
    match ts with
    | .scalar style text :: rest => some (.scalar style tag? text, known, rest)
    | .flowSequenceStart :: rest =>
      (takeFlowItems? true steps known rest).map fun (items, more) => (.sequence items, more)
    | .flowMappingStart :: rest =>
      (takeFlowEntries? true steps known rest).map fun (entries, more) => (.mapping entries, more)
    | .blockSequenceStart :: rest =>
      if block then
        (takeItems? steps known rest).map fun (items, more) => (.sequence items, more)
      else none
    | .blockMappingStart :: rest =>
      if block then
        (takeEntries? steps known rest).map fun (entries, more) => (.mapping entries, more)
      else none
    | .blockEntry :: _ =>
      if indentless then
        (takeIndentless? steps known ts).map fun (items, more) => (.sequence items, more)
      else none
    | _ => none

/-- The items of a block sequence up to its end. -/
def takeItems? : Nat → Scope → List Token → Option (Taken (List Node))
  | 0, _, _ => none
  | steps + 1, known, ts =>
    match ts with
    | .blockEnd :: rest => some ([], known, rest)
    | .blockEntry :: rest => do
      let (node, after, more) ←
        if endsItem rest then some (missing, known, rest) else takeNode? true false steps known rest
      let (items, others) ← takeItems? steps after more
      return (node :: items, others)
    | _ => none

/-- The items of a sequence that has no indentation of its own. -/
def takeIndentless? : Nat → Scope → List Token → Option (Taken (List Node))
  | 0, _, _ => none
  | steps + 1, known, ts =>
    match ts with
    | .blockEntry :: rest => do
      let (node, after, more) ←
        if endsItem rest || endsPart rest then some (missing, known, rest)
        else takeNode? true false steps known rest
      let (items, others) ← takeIndentless? steps after more
      return (node :: items, others)
    | _ => some ([], known, ts)

/-- The entries of a block mapping up to its end. -/
def takeEntries? : Nat → Scope → List Token → Option (Taken (List (Node × Node)))
  | 0, _, _ => none
  | steps + 1, known, ts =>
    match ts with
    | .blockEnd :: rest => some ([], known, rest)
    | .key :: rest => do
      let (key, afterKey, more) ←
        if endsPart rest then some (missing, known, rest) else takeNode? true true steps known rest
      let (value, afterValue, others) ← takeValue? steps afterKey more
      let (entries, final) ← takeEntries? steps afterValue others
      return ((key, value) :: entries, final)
    | _ => none

/-- The value of an entry of a block mapping, if there is one. -/
def takeValue? : Nat → Scope → List Token → Option (Taken Node)
  | 0, _, _ => none
  | steps + 1, known, ts =>
    match ts with
    | .value :: rest =>
      if endsPart rest then some (missing, known, rest) else takeNode? true true steps known rest
    | _ => some (missing, known, ts)

/-- The items of a flow sequence up to its end; a comma may stand before the end. -/
def takeFlowItems? (first : Bool) : Nat → Scope → List Token → Option (Taken (List Node))
  | 0, _, _ => none
  | steps + 1, known, ts =>
    match ts with
    | .flowSequenceEnd :: rest => some ([], known, rest)
    | .flowEntry :: rest => if first then none else takeFlowItem? steps known rest
    | _ => if first then takeFlowItem? steps known ts else none

/-- An item of a flow sequence and those after it. An item may be a single entry. -/
def takeFlowItem? : Nat → Scope → List Token → Option (Taken (List Node))
  | 0, _, _ => none
  | steps + 1, known, ts =>
    match ts with
    | .flowSequenceEnd :: rest => some ([], known, rest)
    | .key :: rest => do
      let (key, afterKey, more) ←
        if endsFlowKey rest then some (missing, known, rest)
        else takeNode? false false steps known rest
      let (value, afterValue, others) ← takeFlowValue? steps afterKey more
      let (items, final) ← takeFlowItems? false steps afterValue others
      return (.mapping [(key, value)] :: items, final)
    | _ => do
      let (node, after, more) ← takeNode? false false steps known ts
      let (items, others) ← takeFlowItems? false steps after more
      return (node :: items, others)

/-- The entries of a flow mapping up to its end; a comma may stand before the end. -/
def takeFlowEntries? (first : Bool) :
    Nat → Scope → List Token → Option (Taken (List (Node × Node)))
  | 0, _, _ => none
  | steps + 1, known, ts =>
    match ts with
    | .flowMappingEnd :: rest => some ([], known, rest)
    | .flowEntry :: rest => if first then none else takeFlowEntry? steps known rest
    | _ => if first then takeFlowEntry? steps known ts else none

/-- An entry of a flow mapping and those after it. An entry may be a key alone. -/
def takeFlowEntry? : Nat → Scope → List Token → Option (Taken (List (Node × Node)))
  | 0, _, _ => none
  | steps + 1, known, ts =>
    match ts with
    | .flowMappingEnd :: rest => some ([], known, rest)
    | .key :: rest => do
      let (key, afterKey, more) ←
        if endsFlowKey rest then some (missing, known, rest)
        else takeNode? false false steps known rest
      let (value, afterValue, others) ← takeFlowValue? steps afterKey more
      let (entries, final) ← takeFlowEntries? false steps afterValue others
      return ((key, value) :: entries, final)
    | _ => do
      let (key, after, more) ← takeNode? false false steps known ts
      let (entries, others) ← takeFlowEntries? false steps after more
      return ((key, missing) :: entries, others)

/-- The value of an entry in flow style, if there is one. -/
def takeFlowValue? : Nat → Scope → List Token → Option (Taken Node)
  | 0, _, _ => none
  | steps + 1, known, ts =>
    match ts with
    | .value :: rest =>
      if endsFlowValue rest then some (missing, known, rest)
      else takeNode? false false steps known rest
    | _ => some (missing, known, ts)

end

/-- The next token starts or ends a document, or there is none. -/
def endsDocument : List Token → Bool
  | [] => true
  | .directive _ :: _ => true
  | .documentStart :: _ => true
  | .documentEnd :: _ => true
  | _ => false

/-- The versions of the format that are read. -/
def isKnownVersion (major minor : Nat) : Bool := major == 1 && (minor == 1 || minor == 2)

/-- The directives at the start: whether there is one that gives the version, the abbreviations,
and what follows. A version is given once, and a handle stands for one thing. -/
def takeDirectives? (hasVersion : Bool) (abbreviations : List (String × String)) :
    List Token → Option (Bool × List (String × String) × List Token)
  | .directive (.version major minor) :: rest =>
    if hasVersion || !isKnownVersion major minor then none
    else takeDirectives? true abbreviations rest
  | .directive (.abbreviation handle expansion) :: rest =>
    if (Members.get? handle abbreviations).isSome then none
    else takeDirectives? hasVersion (abbreviations ++ [(handle, expansion)]) rest
  | ts => some (hasVersion, abbreviations, ts)

/-- The root of the only document of a text. A text without a document has a missing root, and
directives need the mark of a document after them. Every token takes a few steps at most, which
bounds them. -/
def ofTokens? (ts : List Token) : Option Node := do
  let steps := 4 * ts.length + 4
  let (hasVersion, abbreviations, body) ← takeDirectives? false [] ts
  let scope : Scope := ⟨abbreviations, []⟩
  let (root, _, rest) ←
    match body with
    | .documentStart :: rest =>
      if endsDocument rest then some (missing, scope, rest)
      else takeNode? true false steps scope rest
    | _ =>
      if hasVersion || !abbreviations.isEmpty then none
      else if body.isEmpty then some (missing, scope, [])
      else takeNode? true false steps scope body
  if rest.all (· == .documentEnd) then some root else none

end Node

end RecordDiff.Yaml
