/-
# Scalars

Coordinates, angles and lengths are scalars. The geometry of this library is
written once, over any type with the operations of `Scalar`; floating-point
numbers run it, and the same definitions can be read over any other field
with these operations. A comparison with an undefined scalar ("not a number")
fails, so a scalar is defined when `x ≤ x`.

Key definitions: `Scalar`, `Scalar.radians`, `Scalar.least`, `Scalar.greatest`,
`Scalar.finite`.
-/
import Arbor.Number.Binary

namespace Arbor

/-- The numbers that coordinates and angles are made of. -/
class Scalar (α : Type) extends
    Add α, Sub α, Mul α, Div α, Neg α, LT α, LE α, OfScientific α where
  /-- The scalar nearest to a whole number. -/
  ofInt : Int → α
  /-- The scalar nearest to a quotient, if the quotient is not beyond all
  scalars. -/
  ofRatio? : Int → Nat → Option α
  sqrt : α → α
  sin : α → α
  cos : α → α
  arctan : α → α
  pi : α
  /-- Whether a scalar is one of the two infinities. -/
  isInfinite : α → Bool
  /-- Whether a whole number is at most a scalar, without rounding. -/
  intLe : Int → α → Bool
  /-- Whether a scalar is at most a whole number, without rounding. -/
  leInt : α → Int → Bool
  [decLt : DecidableLT α]
  [decLe : DecidableLE α]

attribute [reducible, instance] Scalar.decLt Scalar.decLe

instance : Scalar Float where
  ofInt := Binary.ofInt
  ofRatio? := Binary.ofRatio?
  sqrt := Float.sqrt
  sin := Float.sin
  cos := Float.cos
  arctan := Float.atan
  pi := 3.141592653589793
  isInfinite := Float.isInf
  intLe := Binary.intLe
  leInt := Binary.leInt

namespace Scalar

variable {α : Type} [Scalar α]

/-- The scalar nearest to a natural number. -/
def ofNat (n : Nat) : α := ofInt (Int.ofNat n)

/-- An angle in degrees as one in radians. -/
def radians (x : α) : α := x * (pi / 180.0)

/-- An angle in radians as one in degrees. -/
def degrees (x : α) : α := x * (180.0 / pi)

/-- The distance of a scalar from zero. -/
def magnitude (x : α) : α := if x < 0.0 then -x else x

/-- The smaller of two scalars; an undefined one wins. -/
def least (a b : α) : α := if a ≤ a then (if a ≤ b then a else b) else a

/-- The larger of two scalars; an undefined one wins. -/
def greatest (a b : α) : α := if a ≤ a then (if b ≤ a then a else b) else a

/-- Whether a scalar is a number and not infinite. -/
def finite (x : α) : Bool := !isInfinite x && decide (x ≤ x)

end Scalar
end Arbor
