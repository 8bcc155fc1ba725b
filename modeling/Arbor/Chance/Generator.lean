/-
# Generators of random numbers

Growing a tree needs two kinds of draw: a scalar of the unit interval and a
place in a list. A `Generator` offers both and hands back the generator to
draw from next, so that a tree is a function of the generator it starts with.
The place drawn carries the proof that it lies in the list.

A range may be given by whole numbers beyond all scalars. Then no scalar can
be drawn from it: a range between two whole numbers uses up a draw before
that is noticed, any other one does not.

Key definitions: `Generator`, `Generator.uniform`, `baseAngle`.
Key theorems: `Generator.uniform_scalar`, `baseAngle_scalar`.
-/
import Arbor.Quantity

namespace Arbor

/-- A source of random scalars and places. -/
class Generator (γ : Type) (α : outParam Type) where
  /-- The generator that a seed stands for. -/
  seeded : Int → γ
  /-- A scalar from zero, which may be drawn, to one, which may not. -/
  unit : γ → α × γ
  /-- One of the numbers below `n`. -/
  below : (n : Nat) → 0 < n → γ → Fin n × γ

variable {γ α : Type} [Scalar α] [Generator γ α]

/-- A scalar between two quantities. -/
def Generator.uniform (low high : Quantity α) (g : γ) : Option α × γ :=
  match high.minus? low with
  | none => (none, g)
  | some width =>
    let (u, g) := Generator.unit g
    (do some ((← low.value?) + (← width.value?) * u), g)

/-- Between two scalars a draw always succeeds. -/
theorem Generator.uniform_scalar (low high : α) (g : γ) :
    Generator.uniform (.scalar low) (.scalar high) g =
      (some (low + (high - low) * (Generator.unit g).1), (Generator.unit g).2) := rfl

/-- The angle that all turns of one tree are multiples of, in radians: the
center plus or minus up to the spread, both given in degrees. -/
def baseAngle (center spread : Quantity α) (g : γ) : Option α × γ :=
  let (offset, g) := Generator.uniform spread.negated spread g
  (do some (Scalar.radians ((← center.value?) + (← offset))), g)

theorem baseAngle_scalar (center spread : α) (g : γ) :
    baseAngle (.scalar center) (.scalar spread) g =
      (some (Scalar.radians (center + (-spread + (spread - -spread) * (Generator.unit g).1))),
        (Generator.unit g).2) := rfl

end Arbor
