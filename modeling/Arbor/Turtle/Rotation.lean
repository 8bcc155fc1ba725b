/-
# Rotations about the axes of the world

A rotation is applied as the full product of its three-by-three matrix with a
direction, zeros and ones included, so that an infinite coordinate makes the
others undefined. An infinite angle has no cosine and turns nothing.

Key definitions: `Axis`, `Axis.rotate`, `Axis.turn?`, `turns`.
-/
import Arbor.Point
import Arbor.Quantity

namespace Arbor

/-- An axis of the world. -/
inductive Axis where
  | x
  | y
  | z
  deriving DecidableEq, Repr

namespace Axis

variable {α : Type} [Scalar α]

/-- A direction turned about an axis, by the right-hand rule. -/
def rotate (axis : Axis) (angle : α) (v : Point α) : Point α :=
  let c := Scalar.cos angle
  let s := Scalar.sin angle
  match axis with
  | .x => ⟨Point.dot ⟨1.0, 0.0, 0.0⟩ v, Point.dot ⟨0.0, c, -s⟩ v, Point.dot ⟨0.0, s, c⟩ v⟩
  | .y => ⟨Point.dot ⟨c, 0.0, s⟩ v, Point.dot ⟨0.0, 1.0, 0.0⟩ v, Point.dot ⟨-s, 0.0, c⟩ v⟩
  | .z => ⟨Point.dot ⟨c, -s, 0.0⟩ v, Point.dot ⟨s, c, 0.0⟩ v, Point.dot ⟨0.0, 0.0, 1.0⟩ v⟩

/-- A direction turned about an axis, if the angle is not infinite. -/
def turn? (axis : Axis) (angle : α) (v : Point α) : Option (Point α) :=
  if Scalar.isInfinite angle then none else some (axis.rotate angle v)

end Axis

/-- Why a direction cannot be turned. -/
inductive TurnFault where
  | infiniteAngle
  /-- The angle is a whole number beyond all scalars. -/
  | outOfRange
  deriving DecidableEq, Repr

/-- The wording of a fault. -/
def TurnFault.message : TurnFault → String
  | infiniteAngle => "math domain error"
  | outOfRange => "a whole number is beyond the range of the scalars"

/-- Turns one after the other: the direction after each of them, or the fault
of the first one that cannot be made. -/
def turns {α : Type} [Scalar α] :
    Point α → List (Axis × Quantity α) → Except TurnFault (List (Point α))
  | _, [] => .ok []
  | v, (axis, angle) :: rest =>
    match angle.value? with
    | none => .error .outOfRange
    | some angle =>
      match axis.turn? angle v with
      | none => .error .infiniteAngle
      | some w => (turns w rest).map (w :: ·)

end Arbor
