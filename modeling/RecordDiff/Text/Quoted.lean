import RecordDiff.Text.Visible

/-!
# Quoted texts

A quoted text stands between two marks and shows every character: the mark itself and the
backslash are escaped, the common controls have short escapes, and a character that would not be
seen is written by its number in hexadecimal.

## Main definitions

* `quoteString`, `quoteChar` - a text in double quotes, a character in single quotes
-/

namespace RecordDiff.Text

/-- The digits of a number in hexadecimal, in lower case and without leading zeros. -/
def hexDigits (n : Nat) : List Char := Nat.toDigits 16 n

/-- The number of a code point between braces. -/
def codePointEscape (c : Char) : List Char :=
  ['\\', 'u', '{'] ++ hexDigits c.toNat ++ ['}']

/-- A character inside a text quoted with `mark`. -/
def quotedChar (mark c : Char) : List Char :=
  if c == mark || c == '\\' then ['\\', c]
  else if c == '\t' then ['\\', 't']
  else if c == '\r' then ['\\', 'r']
  else if c == '\n' then ['\\', 'n']
  else if c == '\x00' then ['\\', '0']
  else if isGraphemeExtender c || !isVisible c then codePointEscape c
  else [c]

/-- The text in double quotes. -/
def quoteString (s : String) : String :=
  String.ofList (['"'] ++ s.toList.flatMap (quotedChar '"') ++ ['"'])

/-- The character in single quotes. -/
def quoteChar (c : Char) : String :=
  String.ofList (['\''] ++ quotedChar '\'' c ++ ['\''])

end RecordDiff.Text
