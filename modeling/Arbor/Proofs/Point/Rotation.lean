/-
# Rotations and mirrors

Over the real numbers a rotation about an axis of the world keeps dot products
(`Axis.dot_rotate`) and cross products, it leaves the points of its axis where
they are, and two rotations about one axis are one by the sum of their angles.

The mirror of an axis negates the coordinate along it. What is seen in it turns
the same way about this axis and the other way about the two others.

Key definitions: `Axis.direction`, `Axis.mirror`.
Key theorems: `Axis.cross_rotate`, `Axis.rotate_direction`,
`Axis.rotate_rotate`, `Axis.rotate_mirror`, `Point.unit_mirror`.
-/
import Arbor.Proofs.Point.Norm

namespace Arbor

namespace Axis

/-- The direction of an axis. -/
def direction : Axis → Point ℝ
  | x => ⟨1, 0, 0⟩
  | y => ⟨0, 1, 0⟩
  | z => ⟨0, 0, 1⟩

/-- A point with the other sign of its coordinate along an axis. -/
def mirror : Axis → Point ℝ → Point ℝ
  | x, p => ⟨-p.x, p.y, p.z⟩
  | y, p => ⟨p.x, -p.y, p.z⟩
  | z, p => ⟨p.x, p.y, -p.z⟩

/-! ### Rotations -/

/-- A rotation keeps the cross product of two directions. -/
theorem cross_rotate (axis : Axis) (angle : ℝ) (p q : Point ℝ) :
    (axis.rotate angle p).cross (axis.rotate angle q) = axis.rotate angle (p.cross q) := by
  have hcircle : Real.cos angle ^ 2 + Real.sin angle ^ 2 = 1 := Real.cos_sq_add_sin_sq angle
  cases axis with
  | x =>
    simp only [rotate_x, Point.cross, Point.mk.injEq]
    refine ⟨?_, by ring, by ring⟩
    linear_combination (p.y * q.z - p.z * q.y) * hcircle
  | y =>
    simp only [rotate_y, Point.cross, Point.mk.injEq]
    refine ⟨by ring, ?_, by ring⟩
    linear_combination (p.z * q.x - p.x * q.z) * hcircle
  | z =>
    simp only [rotate_z, Point.cross, Point.mk.injEq]
    refine ⟨by ring, by ring, ?_⟩
    linear_combination (p.x * q.y - p.y * q.x) * hcircle

/-- A rotation leaves the points of its axis where they are. -/
theorem rotate_direction (axis : Axis) (angle k : ℝ) :
    axis.rotate angle (axis.direction.scale k) = axis.direction.scale k := by
  cases axis with
  | x => simp [rotate_x, direction, Point.scale]
  | y => simp [rotate_y, direction, Point.scale]
  | z => simp [rotate_z, direction, Point.scale]

/-- Rotations about one axis add up. -/
theorem rotate_rotate (axis : Axis) (a b : ℝ) (p : Point ℝ) :
    axis.rotate b (axis.rotate a p) = axis.rotate (a + b) p := by
  cases axis with
  | x =>
    simp only [rotate_x, Real.cos_add, Real.sin_add, Point.mk.injEq, true_and]
    exact ⟨by ring, by ring⟩
  | y =>
    simp only [rotate_y, Real.cos_add, Real.sin_add, Point.mk.injEq, true_and]
    exact ⟨by ring, by ring⟩
  | z =>
    simp only [rotate_z, Real.cos_add, Real.sin_add, Point.mk.injEq, and_true]
    exact ⟨by ring, by ring⟩

@[simp] theorem rotate_zero (axis : Axis) (p : Point ℝ) : axis.rotate 0 p = p := by
  cases axis with
  | x => simp [rotate_x]
  | y => simp [rotate_y]
  | z => simp [rotate_z]

/-! ### Mirrors -/

/-- A mirror does not change a turn about its own axis, and it turns one about
another axis round. -/
theorem rotate_mirror (axis turned : Axis) (angle : ℝ) (p : Point ℝ) :
    turned.rotate (if turned = axis then angle else -angle) (axis.mirror p) =
      axis.mirror (turned.rotate angle p) := by
  cases axis <;> cases turned <;>
    simp only [reduceIte, reduceCtorEq, rotate_x, rotate_y, rotate_z, mirror, Real.cos_neg,
      Real.sin_neg, Point.mk.injEq, true_and, and_true] <;>
    exact ⟨by ring, by ring⟩

theorem mirror_add (axis : Axis) (p q : Point ℝ) :
    axis.mirror (p + q) = axis.mirror p + axis.mirror q := by
  cases axis with
  | x => exact congrArg (Point.mk · (p.y + q.y) (p.z + q.z)) (neg_add p.x q.x)
  | y => exact congrArg (Point.mk (p.x + q.x) · (p.z + q.z)) (neg_add p.y q.y)
  | z => exact congrArg (Point.mk (p.x + q.x) (p.y + q.y)) (neg_add p.z q.z)

theorem mirror_scale (axis : Axis) (k : ℝ) (p : Point ℝ) :
    axis.mirror (p.scale k) = (axis.mirror p).scale k := by
  cases axis <;> simp only [mirror, Point.scale, mul_neg]

theorem mirror_origin (axis : Axis) : axis.mirror Point.origin = Point.origin := by
  cases axis <;> norm_num [mirror, Point.origin]

/-- A mirror that stands upright does not change the direction a tree grows
in. -/
theorem mirror_up {axis : Axis} (upright : axis ≠ y) : axis.mirror Point.up = Point.up := by
  cases axis with
  | x => norm_num [mirror, Point.up]
  | y => exact absurd rfl upright
  | z => norm_num [mirror, Point.up]

theorem norm_mirror (axis : Axis) (p : Point ℝ) : (axis.mirror p).norm = p.norm := by
  have hdot : (axis.mirror p).dot (axis.mirror p) = p.dot p := by
    cases axis <;> simp only [mirror, Point.dot, neg_mul_neg]
  exact congrArg Real.sqrt hdot

end Axis

theorem Point.unit_mirror (axis : Axis) (p : Point ℝ) :
    (axis.mirror p).unit = axis.mirror p.unit := by
  unfold unit dividedBy
  rw [Axis.norm_mirror]
  cases axis <;> simp only [Axis.mirror, neg_div]

end Arbor
