/-
# Reading numbers

`Numeral.readInt` reads a whole number in a given base and `Numeral.readFloat`
a floating-point number. Both take blanks at the two ends, a sign, digits of
any script, and single underscores between two digits. A whole number in base
sixteen may begin with `0x`, one in base ten may have 4300 digits; a
floating-point number may also be a spelling of infinity or "nan".

Key definitions: `Numeral.readInt`, `Numeral.readFloat`.
-/
import Arbor.Number.Binary
import Arbor.Text.Digit

namespace Arbor
namespace Numeral

open scoped Power

/-- The value of a digit in bases up to sixteen: a decimal digit of any
script, or one of the letters from a to f. -/
def digit? (c : Char) : Option Nat :=
  match digitValue? c with
  | some d => some d
  | none =>
    if 'a' ≤ c ∧ c ≤ 'f' then some (c.toNat - 'a'.toNat + 10)
    else if 'A' ≤ c ∧ c ≤ 'F' then some (c.toNat - 'A'.toNat + 10)
    else none

/-- The values of the digits of a text that is nothing else than digits of the
base, with single underscores between two of them. -/
def digits? (base : Nat) : List Char → Option (List Nat)
  | [] => none
  | [c] => (digit? c).bind fun d => if d < base then some [d] else none
  | c :: '_' :: rest =>
    (digit? c).bind fun d => if d < base then (digits? base rest).map (d :: ·) else none
  | c :: rest =>
    (digit? c).bind fun d => if d < base then (digits? base rest).map (d :: ·) else none

/-- The number with the given digits, the first one weighing most. -/
def ofDigits (base : Nat) (ds : List Nat) : Nat := ds.foldl (fun n d => n * base + d) 0

/-- A text without its sign, and whether the sign was a minus. -/
def unsigned : List Char → Bool × List Char
  | '+' :: rest => (false, rest)
  | '-' :: rest => (true, rest)
  | s => (false, s)

/-- A text without the mark of base sixteen: a zero and an x, and one
underscore after them. -/
def unmarked : List Char → List Char
  | zero :: x :: rest =>
    if digit? zero = some 0 ∧ (x = 'x' ∨ x = 'X') then
      match rest with
      | '_' :: ds => ds
      | ds => ds
    else zero :: x :: rest
  | s => s

/-- How many digits a whole number in base ten may have. -/
def digitLimit : Nat := 4300

/-- Reads a whole number. -/
def readInt (base : Nat) (s : List Char) : Option Int :=
  let (negative, body) := unsigned (trimBlanks s)
  match digits? base (if base = 16 then unmarked body else body) with
  | none => none
  | some ds =>
    if base = 10 ∧ digitLimit < ds.length then none
    else
      let n := ofDigits base ds
      some (if negative then -Int.ofNat n else Int.ofNat n)

/-! ### Floating-point numbers

Digits of other scripts are first replaced by the ASCII ones, so that one
grammar is left: digits, a point and digits, a power of ten. An underscore is
good only between two digits. -/

/-- A decimal digit of any script as the ASCII digit. -/
def plainDigit (c : Char) : Char :=
  match digitValue? c with
  | some d => Char.ofNat (d + '0'.toNat)
  | none => c

/-- Whether a character is one of the ten ASCII digits. -/
def isPlainDigit (c : Char) : Bool := '0' ≤ c && c ≤ '9'

/-- A text without its underscores, if each of them stands between two
digits; `before` is the character in front of the text. -/
def withoutUnderscores (before : Char) : List Char → Option (List Char)
  | [] => if before = '_' then none else some []
  | c :: rest =>
    if c = '_' then
      if isPlainDigit before then withoutUnderscores c rest else none
    else if before = '_' ∧ !isPlainDigit c then none
    else (withoutUnderscores c rest).map (c :: ·)

/-- The number that ASCII digits stand for. -/
def decimalValue (ds : List Char) : Nat := ofDigits 10 (ds.map fun c => c.toNat - '0'.toNat)

/-- The power of ten at the end of a number: nothing at all, or the letter e,
a sign and digits. -/
def power? : List Char → Option Int
  | [] => some 0
  | e :: rest =>
    if e = 'e' ∨ e = 'E' then
      let (negative, ds) := unsigned rest
      if ds.isEmpty || !ds.all isPlainDigit then none
      else some (if negative then -Int.ofNat (decimalValue ds) else Int.ofNat (decimalValue ds))
    else none

/-- A number without a sign that is written with digits. -/
def decimal? (negative : Bool) (s : List Char) : Option Float :=
  let whole := s.takeWhile isPlainDigit
  let (part, rest) := match s.dropWhile isPlainDigit with
    | '.' :: after => (after.takeWhile isPlainDigit, after.dropWhile isPlainDigit)
    | after => ([], after)
  if whole.isEmpty && part.isEmpty then none
  else
    (power? rest).map fun e =>
      Binary.ofDecimal negative (decimalValue (whole ++ part)) (e - Int.ofNat part.length)

/-- Reads a floating-point number. -/
def readFloat (s : List Char) : Option Float :=
  match withoutUnderscores ' ' ((trimBlanks s).map plainDigit) with
  | none => none
  | some t =>
    let (negative, body) := unsigned t
    let word := String.ofList (body.map Char.toLower)
    if word = "inf" ∨ word = "infinity" then some (Binary.nearest negative (10 ^ 400) 1)
    else if word = "nan" then some (0.0 / 0.0)
    else decimal? negative body

end Numeral
end Arbor
