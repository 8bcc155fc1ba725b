/-
# Quantities

A length, an angle or a bound is given as a whole number or as a scalar. A
whole number stays exact as long as it is only compared or subtracted from
another one, and becomes the nearest scalar when it is measured with. Then it
may turn out to be beyond all scalars, and `Quantity.value?` has no answer.

Key definitions: `Quantity`, `Quantity.value?`, `Quantity.positive`,
`Quantity.atMost`, `Quantity.minus?`.
Key theorems: `Quantity.value?_scalar`, `Quantity.minus?_scalar`.
-/
import Arbor.Scalar

namespace Arbor

/-- A number that is given as a whole number or as a scalar. -/
inductive Quantity (α : Type) where
  | whole (n : Int)
  | scalar (x : α)

namespace Quantity

variable {α : Type} [Scalar α]

/-- The scalar nearest to a quantity, if there is one. -/
def value? : Quantity α → Option α
  | whole n => Scalar.ofRatio? n 1
  | scalar x => some x

@[simp] theorem value?_scalar (x : α) : (scalar x).value? = some x := rfl

/-- The scalar nearest to half of a quantity, if there is one. -/
def half? : Quantity α → Option α
  | whole n => Scalar.ofRatio? n 2
  | scalar x => some (x / 2.0)

@[simp] theorem half?_scalar (x : α) : (scalar x).half? = some (x / 2.0) := rfl

/-- Whether a quantity is greater than zero. -/
def positive : Quantity α → Bool
  | whole n => decide (0 < n)
  | scalar x => decide ((0.0 : α) < x)

/-- Whether a quantity is zero or greater. -/
def notNegative : Quantity α → Bool
  | whole n => decide (0 ≤ n)
  | scalar x => decide ((0.0 : α) ≤ x)

/-- Whether one quantity is at most another, without rounding. -/
def atMost : Quantity α → Quantity α → Bool
  | whole m, whole n => decide (m ≤ n)
  | whole m, scalar y => Scalar.intLe m y
  | scalar x, whole n => Scalar.leInt x n
  | scalar x, scalar y => decide (x ≤ y)

/-- A quantity with the other sign. -/
def negated : Quantity α → Quantity α
  | whole n => whole (-n)
  | scalar x => scalar (-x)

/-- The difference of two quantities: exact between whole numbers, otherwise
that of the scalars nearest to them, if there are any. -/
def minus? : Quantity α → Quantity α → Option (Quantity α)
  | whole m, whole n => some (whole (m - n))
  | a, b => do some (scalar ((← a.value?) - (← b.value?)))

@[simp] theorem minus?_scalar (x y : α) : minus? (scalar x) (scalar y) = some (scalar (x - y)) :=
  rfl

end Quantity
end Arbor
