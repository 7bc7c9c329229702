import RecordDiff.Text.Blank
import RecordDiff.Text.Case

/-!
# Language tags

A locale is a language such as `fr`, perhaps with a region as in `en-US`. Whatever the spelling it
was read from, its tag has the language in lower case, the region in upper case, and a hyphen
between them.

## Main definitions

* `Locale.ofLanguage`, `Locale.ofRegion` - a locale from its parts
* `Locale.parse` - a locale from a written tag
* `Locale.language`, `Locale.region?` - the parts of a tag
-/

namespace RecordDiff

/-- A language tag, ordered by its text. -/
structure Locale where
  tag : String
  deriving DecidableEq, Repr, Inhabited

namespace Locale

/-- The text around the first character that satisfies `p`, if there is one. -/
def splitAtFirst (p : Char → Bool) : List Char → Option (List Char × List Char)
  | [] => none
  | c :: rest =>
    if p c then some ([], rest)
    else (splitAtFirst p rest).map fun (before, after) => (c :: before, after)

/-- A language without blanks around it and in lower case. -/
def normalLanguage (s : String) : String := Text.lowercase (Text.trim s)

/-- A region without blanks around it and in upper case. -/
def normalRegion (s : String) : String := Text.uppercase (Text.trim s)

/-- A locale without a region. -/
def ofLanguage (language : String) : Locale := ⟨normalLanguage language⟩

/-- A locale with a region. -/
def ofRegion (language region : String) : Locale :=
  ⟨normalLanguage language ++ "-" ++ normalRegion region⟩

/-- The character separates a language from a region. -/
def isSeparator (c : Char) : Bool := c == '-' || c == '_'

/-- Reads a tag such as `en-US`, `en_us` or `en`. -/
def parse (s : String) : Locale :=
  match splitAtFirst isSeparator s.toList with
  | some (language, region) => ofRegion (String.ofList language) (String.ofList region)
  | none => ofLanguage s

/-- What stands before the first hyphen. -/
def language (l : Locale) : String := String.ofList (l.tag.toList.takeWhile (· != '-'))

/-- What stands after the first hyphen. -/
def region? (l : Locale) : Option String :=
  (splitAtFirst (· == '-') l.tag.toList).map fun (_, after) => String.ofList after

instance : Ord Locale := ⟨fun a b => compare a.tag b.tag⟩

end Locale

end RecordDiff
