/-
# Quoted text

Messages name a text by quoting it: between single quotes, or between double
quotes when it holds a single quote and no double one. The backslash, the
quote that is in use and the three common control characters are written with
a backslash and a letter or themselves, and every other hidden character as a
backslash and its code point in two, four or eight hexadecimal digits.

Key definitions: `quoted`.
-/
import Arbor.Text.Hidden

namespace Arbor

/-- The lower-case hexadecimal digits of `n`, with zeros in front up to
`count` digits. -/
def hexDigits (count n : Nat) : List Char :=
  let ds := Nat.toDigits 16 n
  List.replicate (count - ds.length) '0' ++ ds

/-- A hidden character by its code point. -/
def escapedCode (c : Char) : List Char :=
  let n := c.toNat
  if n < 0x100 then '\\' :: 'x' :: hexDigits 2 n
  else if n < 0x10000 then '\\' :: 'u' :: hexDigits 4 n
  else '\\' :: 'U' :: hexDigits 8 n

/-- One character of a text that stands between two `mark`s. -/
def quotedChar (mark c : Char) : List Char :=
  if c = '\\' ∨ c = mark then ['\\', c]
  else if c = '\n' then ['\\', 'n']
  else if c = '\r' then ['\\', 'r']
  else if c = '\t' then ['\\', 't']
  else if isHidden c then escapedCode c
  else [c]

/-- The quote to put around a text: the single one, unless the text holds a
single quote and no double one. -/
def quoteMark (s : List Char) : Char :=
  if s.contains '\'' && !s.contains '"' then '"' else '\''

/-- A text between quotes. -/
def quoted (s : List Char) : String :=
  let mark := quoteMark s
  String.ofList (mark :: s.flatMap (quotedChar mark) ++ [mark])

end Arbor
