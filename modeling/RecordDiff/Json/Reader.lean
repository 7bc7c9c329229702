import RecordDiff.Json.Number

/-!
# Reading JSON text

A strict reader: no comments, no commas at the end of a list, no blanks other than the four of the
grammar, no control characters in strings, no halves of surrogate pairs. The members of an object
are read as they stand; `Json.ofText?` sets repeated keys over each other.

## Main definitions

* `Json.read?` - the value written by a text, with repeated keys kept
* `Json.ofText?` - the value in which every key is there once
-/

namespace RecordDiff.Json

/-- The blanks of the grammar. -/
def isSpace (c : Char) : Bool := c == ' ' || c == '\n' || c == '\t' || c == '\r'

/-- What follows the blanks at the start. -/
def skipSpace (cs : List Char) : List Char := cs.dropWhile isSpace

/-! ### Strings -/

/-- The value of a hexadecimal digit of either case. -/
def hexValue? (c : Char) : Option Nat :=
  if Digits.isDigit c then some (c.toNat - '0'.toNat)
  else if 'a' ≤ c && c ≤ 'f' then some (c.toNat - 'a'.toNat + 10)
  else if 'A' ≤ c && c ≤ 'F' then some (c.toNat - 'A'.toNat + 10)
  else none

/-- The number written by hexadecimal digits. -/
def hexNumber? (cs : List Char) : Option Nat :=
  cs.foldlM (fun n c => (hexValue? c).map (n * 16 + ·)) 0

/-- The character that a letter stands for after a backslash. -/
def unescaped? (c : Char) : Option Char :=
  if c == '"' || c == '\\' || c == '/' then some c
  else if c == 'b' then some '\x08'
  else if c == 'f' then some '\x0c'
  else if c == 'n' then some '\n'
  else if c == 'r' then some '\r'
  else if c == 't' then some '\t'
  else none

/-- The number is the first half of a surrogate pair. -/
def isLeadSurrogate (n : Nat) : Bool := 0xD800 ≤ n && n < 0xDC00

/-- The number is the second half of a surrogate pair. -/
def isTrailSurrogate (n : Nat) : Bool := 0xDC00 ≤ n && n < 0xE000

/-- The character of a surrogate pair. -/
def pairChar (lead trail : Nat) : Char :=
  Char.ofNat ((lead - 0xD800) * 0x400 + (trail - 0xDC00) + 0x10000)

/-- Puts a character before a string that was read. -/
def prepend (c : Char) (r : Option (List Char × List Char)) : Option (List Char × List Char) :=
  r.map fun (s, rest) => (c :: s, rest)

/-- The rest of a string after its opening mark, and what follows its closing mark. -/
def takeString? : List Char → Option (List Char × List Char)
  | [] => none
  | '"' :: rest => some ([], rest)
  | '\\' :: 'u' :: a :: b :: c :: d :: rest =>
    match hexNumber? [a, b, c, d] with
    | none => none
    | some n =>
      if isLeadSurrogate n then
        match rest with
        | '\\' :: 'u' :: e :: f :: g :: h :: after =>
          match hexNumber? [e, f, g, h] with
          | none => none
          | some m =>
            if isTrailSurrogate m then prepend (pairChar n m) (takeString? after) else none
        | _ => none
      else if isTrailSurrogate n then none
      else prepend (Char.ofNat n) (takeString? rest)
  | '\\' :: c :: rest =>
    match unescaped? c with
    | none => none
    | some u => prepend u (takeString? rest)
  | c :: rest => if c < ' ' then none else prepend c (takeString? rest)

/-! ### Values -/

/-- The rest of the text after a fixed word. -/
def takeWord? (word : String) (cs : List Char) : Option (List Char) :=
  if word.toList.isPrefixOf cs then some (cs.drop word.length) else none

/-- A key and its colon, and what follows them. -/
def takeKey? (cs : List Char) : Option (String × List Char) :=
  match skipSpace cs with
  | '"' :: rest =>
    match takeString? rest with
    | none => none
    | some (key, after) =>
      match skipSpace after with
      | ':' :: more => some (String.ofList key, more)
      | _ => none
  | _ => none

mutual

/-- A value at the start, and what follows it. The first argument bounds the number of steps. -/
def takeValue? : Nat → List Char → Option (Json × List Char)
  | 0, _ => none
  | steps + 1, cs =>
    match skipSpace cs with
    | '"' :: rest => (takeString? rest).map fun (s, after) => (.string (String.ofList s), after)
    | '[' :: rest =>
      match skipSpace rest with
      | ']' :: after => some (.array [], after)
      | _ => (takeItems? steps rest).map fun (items, after) => (.array items, after)
    | '{' :: rest =>
      match skipSpace rest with
      | '}' :: after => some (.object [], after)
      | _ => (takeMembers? steps rest).map fun (members, after) => (.object members, after)
    | 'n' :: rest => (takeWord? "ull" rest).map fun after => (.null, after)
    | 't' :: rest => (takeWord? "rue" rest).map fun after => (.bool true, after)
    | 'f' :: rest => (takeWord? "alse" rest).map fun after => (.bool false, after)
    | start =>
      match takeNumeral? start with
      | none => none
      | some (n, after) => n.toJson?.map fun j => (j, after)

/-- Items up to the end of an array, one of them at least. -/
def takeItems? : Nat → List Char → Option (List Json × List Char)
  | 0, _ => none
  | steps + 1, cs =>
    match takeValue? steps cs with
    | none => none
    | some (j, after) =>
      match skipSpace after with
      | ']' :: rest => some ([j], rest)
      | ',' :: rest => (takeItems? steps rest).map fun (items, more) => (j :: items, more)
      | _ => none

/-- Members up to the end of an object, one of them at least. -/
def takeMembers? : Nat → List Char → Option (List (String × Json) × List Char)
  | 0, _ => none
  | steps + 1, cs =>
    match takeKey? cs with
    | none => none
    | some (key, afterKey) =>
      match takeValue? steps afterKey with
      | none => none
      | some (j, after) =>
        match skipSpace after with
        | '}' :: rest => some ([(key, j)], rest)
        | ',' :: rest =>
          (takeMembers? steps rest).map fun (members, more) => ((key, j) :: members, more)
        | _ => none

end

/-- The value that a text writes, with the members of its objects as they stand. Every value and
every list element takes one character at least, which bounds the steps. -/
def read? (s : String) : Option Json :=
  let cs := s.toList
  match takeValue? (2 * cs.length + 2) cs with
  | some (j, rest) => if (skipSpace rest).isEmpty then some j else none
  | none => none

/-- The value that a text writes, in which a repeated key has its first place and its last
value. -/
def ofText? (s : String) : Option Json := (read? s).map merged

end RecordDiff.Json
