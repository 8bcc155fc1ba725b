/-
# Decimal digits and blanks of every script

`digitValue?` gives the value of a decimal digit in any script: the digits of
a script are ten neighbours, so a table of the zeros is enough (version 14.0
of the Unicode character database). `isBlank` is the white space that may
stand around a number, `isGap` is white space in a wider sense, and
`trimBlanks` and `trimGaps` remove them at the ends of a text.

Key definitions: `digitZeros`, `digitValue?`, `isBlank`, `isGap`,
`trimBlanks`, `trimGaps`.
Key theorems: `digitValue?_lt`.
-/

namespace Arbor

/-- The code points of the zeros of all scripts with decimal digits. -/
def digitZeros : List Nat := [
  0x30, 0x660, 0x6F0, 0x7C0, 0x966, 0x9E6, 0xA66, 0xAE6, 0xB66, 0xBE6,
  0xC66, 0xCE6, 0xD66, 0xDE6, 0xE50, 0xED0, 0xF20, 0x1040, 0x1090, 0x17E0,
  0x1810, 0x1946, 0x19D0, 0x1A80, 0x1A90, 0x1B50, 0x1BB0, 0x1C40, 0x1C50, 0xA620,
  0xA8D0, 0xA900, 0xA9D0, 0xA9F0, 0xAA50, 0xABF0, 0xFF10, 0x104A0, 0x10D30, 0x11066,
  0x110F0, 0x11136, 0x111D0, 0x112F0, 0x11450, 0x114D0, 0x11650, 0x116C0, 0x11730, 0x118E0,
  0x11950, 0x11C50, 0x11D50, 0x11DA0, 0x16A60, 0x16AC0, 0x16B50, 0x1D7CE, 0x1D7D8, 0x1D7E2,
  0x1D7EC, 0x1D7F6, 0x1E140, 0x1E2F0, 0x1E950, 0x1FBF0]

/-- The value of a decimal digit of any script. -/
def digitValue? (c : Char) : Option Nat :=
  (digitZeros.find? fun start => decide (start ≤ c.toNat) && decide (c.toNat < start + 10)).map
    (c.toNat - ·)

/-- A decimal digit is worth less than ten. -/
theorem digitValue?_lt {c : Char} {d : Nat} (h : digitValue? c = some d) : d < 10 := by
  obtain ⟨start, found, rfl⟩ := Option.map_eq_some_iff.1 h
  have := List.find?_some found
  simp only [Bool.and_eq_true, decide_eq_true_eq] at this
  omega

/-- White space that may stand around a number: the six blanks of ASCII from
the tab to the carriage return and the space, and the blanks beyond ASCII. -/
def isBlank (c : Char) : Bool :=
  let n := c.toNat
  (9 ≤ n && n ≤ 13) || n == 0x20 || n == 0x85 || n == 0xA0 || n == 0x1680 ||
    (0x2000 ≤ n && n ≤ 0x200A) || n == 0x2028 || n == 0x2029 || n == 0x202F || n == 0x205F ||
    n == 0x3000

/-- White space in the wider sense: a blank, or one of the four characters that
separate files, groups, records and units. -/
def isGap (c : Char) : Bool := isBlank c || (0x1C ≤ c.toNat && c.toNat ≤ 0x1F)

/-- A text without the characters of a kind at its two ends. -/
def trimEnds (kind : Char → Bool) (s : List Char) : List Char :=
  ((s.dropWhile kind).reverse.dropWhile kind).reverse

/-- A text without the blanks at its two ends. -/
def trimBlanks (s : List Char) : List Char := trimEnds isBlank s

/-- A text without white space in the wider sense at its two ends. -/
def trimGaps (s : List Char) : List Char := trimEnds isGap s

end Arbor
