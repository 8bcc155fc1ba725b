/-
# The exact value of a floating-point number

A finite floating-point number is a whole number times a power of two.
`Binary.ofFloat` reads that value off its bits and `nearest` goes back: the
floating-point number nearest to a quotient of whole numbers, a tie going to
the even mantissa, values beyond the largest one becoming infinite. All
printing and reading of numbers is exact arithmetic between these two.

Key definitions: `Binary`, `Binary.ofFloat`, `Binary.nearest`,
`Binary.ofRatio?`.
-/
import Arbor.Number.Rounding

namespace Arbor

/-- What a floating-point number stands for. -/
inductive Binary where
  | nan
  | infinite (negative : Bool)
  /-- The value is `mantissa * 2 ^ exponent`, with its sign. -/
  | finite (negative : Bool) (mantissa : Nat) (exponent : Int)
  deriving Repr, DecidableEq

namespace Binary

open scoped Power

/-- The value that the bits of `x` stand for. -/
def ofFloat (x : Float) : Binary :=
  let bits := x.toBits.toNat
  let negative := decide (2 ^ 63 ≤ bits)
  let field := bits / 2 ^ 52 % 2 ^ 11
  let fraction := bits % 2 ^ 52
  if field = 2047 then
    if fraction = 0 then .infinite negative else .nan
  else if field = 0 then .finite negative fraction (-1074)
  else .finite negative (2 ^ 52 + fraction) (Int.ofNat field - 1075)

/-- The numerator of `m * 2 ^ e`. -/
def numerator (m : Nat) (e : Int) : Nat := m * 2 ^ e.toNat

/-- The denominator of `m * 2 ^ e`: a power of two. -/
def denominator (e : Int) : Nat := 2 ^ (-e).toNat

/-- The exponent of the greatest power of two that is at most `num / den`. -/
def magnitude (num den : Nat) : Int :=
  let guess := Int.ofNat num.log2 - Int.ofNat den.log2
  if den * 2 ^ guess.toNat ≤ num * 2 ^ (-guess).toNat then guess else guess - 1

/-- The bits, without the sign, of the floating-point number nearest to
`num / den`. The mantissa is added to the shifted exponent, so that its
leading bit and a carry out of it both land in the exponent field. -/
def nearestBits (num den : Nat) : Nat :=
  if num = 0 then 0
  else
    let e := max (magnitude num den - 52) (-1074)
    let m := roundEven (num * 2 ^ (-e).toNat) (den * 2 ^ e.toNat)
    min ((e + 1074).toNat * 2 ^ 52 + m) (2047 * 2 ^ 52)

/-- The floating-point number nearest to `num / den`, with a sign. -/
def nearest (negative : Bool) (num den : Nat) : Float :=
  Float.ofBits (UInt64.ofNat (nearestBits num den + if negative then 2 ^ 63 else 0))

/-- The floating-point number nearest to a whole number. -/
def ofInt (n : Int) : Float := nearest (decide (n < 0)) n.natAbs 1

/-- The floating-point number nearest to `num / den`, if the quotient is not
beyond all of them. -/
def ofRatio? (num : Int) (den : Nat) : Option Float :=
  if nearestBits num.natAbs den < 2047 * 2 ^ 52 then
    some (nearest (decide (num < 0)) num.natAbs den)
  else none

/-- The floating-point number nearest to `m * 10 ^ e`. Exponents that put the
value beyond every floating-point number are settled without writing it out. -/
def ofDecimal (negative : Bool) (m : Nat) (e : Int) : Float :=
  let top := Int.ofNat (Nat.repr m).length + e
  if m = 0 || top < -400 then nearest negative 0 1
  else if 400 < top then nearest negative (10 ^ 400) 1
  else nearest negative (m * 10 ^ e.toNat) (10 ^ (-e).toNat)

/-- Whether the whole number `n` is at most `x`, without rounding `n`. -/
def intLe (n : Int) (x : Float) : Bool :=
  match ofFloat x with
  | .nan => false
  | .infinite negative => !negative
  | .finite negative m e =>
    let top := Int.ofNat (numerator m e)
    decide (n * Int.ofNat (denominator e) ≤ if negative then -top else top)

/-- Whether `x` is at most the whole number `n`, without rounding `n`. -/
def leInt (x : Float) (n : Int) : Bool :=
  match ofFloat x with
  | .nan => false
  | .infinite negative => negative
  | .finite negative m e =>
    let top := Int.ofNat (numerator m e)
    decide ((if negative then -top else top) ≤ n * Int.ofNat (denominator e))

end Binary
end Arbor
