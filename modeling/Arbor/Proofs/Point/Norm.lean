/-
# Lengths of directions

Over the real numbers `Point.norm` is the Euclidean length: it scales and
satisfies the triangle inequality, and a direction of length one is its own
unit. A rotation about an axis of the world keeps products of directions, and
so their lengths.

Key theorems: `Point.dot_le_norm_mul_norm`, `Point.norm_add_le`,
`Point.norm_eq_zero_iff`, `Point.norm_scale`, `Point.unit_of_norm_one`,
`Axis.rotate_x`, `Axis.rotate_y`, `Axis.rotate_z`, `Axis.dot_rotate`,
`Axis.norm_rotate`.
-/
import Arbor.Proofs.Scalar.Real
import Arbor.Turtle.Rotation

namespace Arbor
namespace Point

section Coordinates

variable {α : Type} [Scalar α] (p q : Point α)

@[simp] theorem add_x : (p + q).x = p.x + q.x := rfl

@[simp] theorem add_y : (p + q).y = p.y + q.y := rfl

@[simp] theorem add_z : (p + q).z = p.z + q.z := rfl

@[simp] theorem sub_x : (p - q).x = p.x - q.x := rfl

@[simp] theorem sub_y : (p - q).y = p.y - q.y := rfl

@[simp] theorem sub_z : (p - q).z = p.z - q.z := rfl

end Coordinates

theorem dot_self_nonneg (p : Point ℝ) : 0 ≤ p.dot p :=
  add_nonneg (add_nonneg (mul_self_nonneg p.x) (mul_self_nonneg p.y)) (mul_self_nonneg p.z)

theorem norm_nonneg (p : Point ℝ) : 0 ≤ p.norm := Real.sqrt_nonneg _

theorem norm_sq (p : Point ℝ) : p.norm ^ 2 = p.dot p := Real.sq_sqrt p.dot_self_nonneg

/-- The product of two directions is at most that of their lengths. What is
missing is the square of their cross product. -/
theorem dot_le_norm_mul_norm (p q : Point ℝ) : p.dot q ≤ p.norm * q.norm := by
  have hcross : p.dot p * q.dot q - p.dot q ^ 2 = (p.cross q).dot (p.cross q) := by
    simp only [dot, cross]
    ring
  have hsq : p.dot q ^ 2 ≤ p.dot p * q.dot q := by
    rw [← sub_nonneg, hcross]
    exact dot_self_nonneg _
  refine le_of_sq_le_sq ?_ (mul_nonneg p.norm_nonneg q.norm_nonneg)
  rw [mul_pow, norm_sq, norm_sq]
  exact hsq

theorem norm_add_le (p q : Point ℝ) : (p + q).norm ≤ p.norm + q.norm := by
  have hdot : (p + q).dot (p + q) = p.norm ^ 2 + 2 * p.dot q + q.norm ^ 2 := by
    rw [norm_sq, norm_sq]
    simp only [dot, add_x, add_y, add_z]
    ring
  refine le_of_sq_le_sq ?_ (add_nonneg p.norm_nonneg q.norm_nonneg)
  rw [norm_sq, hdot]
  linarith [dot_le_norm_mul_norm p q]

/-- No point is farther from the origin than by the way over another one. -/
theorem norm_le_norm_add (p q : Point ℝ) : q.norm ≤ p.norm + (q - p).norm := by
  have hway : q = p + (q - p) := by
    show q = ⟨p.x + (q.x - p.x), p.y + (q.y - p.y), p.z + (q.z - p.z)⟩
    simp only [add_sub_cancel]
  calc q.norm = (p + (q - p)).norm := congrArg norm hway
    _ ≤ p.norm + (q - p).norm := norm_add_le p (q - p)

theorem add_sub_self (p q : Point ℝ) : p + q - p = q := by
  show (⟨p.x + q.x - p.x, p.y + q.y - p.y, p.z + q.z - p.z⟩ : Point ℝ) = q
  simp only [add_sub_cancel_left]

theorem norm_eq_one_iff {p : Point ℝ} : p.norm = 1 ↔ p.dot p = 1 := Real.sqrt_eq_one

/-- Only a direction without coordinates has no length. -/
theorem norm_eq_zero_iff {p : Point ℝ} : p.norm = 0 ↔ p.x = 0 ∧ p.y = 0 ∧ p.z = 0 := by
  have hx := mul_self_nonneg p.x
  have hy := mul_self_nonneg p.y
  have hz := mul_self_nonneg p.z
  show √(p.dot p) = 0 ↔ _
  rw [Real.sqrt_eq_zero p.dot_self_nonneg, dot]
  constructor
  · intro h
    refine ⟨mul_self_eq_zero.1 ?_, mul_self_eq_zero.1 ?_, mul_self_eq_zero.1 ?_⟩ <;> linarith
  · rintro ⟨hx, hy, hz⟩
    rw [hx, hy, hz]
    norm_num

theorem norm_upright {p : Point ℝ} (hx : p.x = 0) (hz : p.z = 0) : p.norm = |p.y| := by
  show √(p.dot p) = |p.y|
  rw [dot, hx, hz, mul_zero, zero_add, add_zero, Real.sqrt_mul_self_eq_abs]

theorem norm_scale {k : ℝ} (hk : 0 ≤ k) (p : Point ℝ) : (p.scale k).norm = k * p.norm := by
  have hdot : (p.scale k).dot (p.scale k) = k ^ 2 * p.dot p := by
    simp only [dot, scale]
    ring
  show √((p.scale k).dot (p.scale k)) = k * √(p.dot p)
  rw [hdot, Real.sqrt_mul (sq_nonneg k), Real.sqrt_sq hk]

@[simp] theorem norm_up : (up : Point ℝ).norm = 1 := by
  rw [norm_eq_one_iff]
  simp only [dot, up]
  norm_num

@[simp] theorem norm_origin : (origin : Point ℝ).norm = 0 := by
  show √((origin : Point ℝ).dot origin) = 0
  simp only [dot, origin]
  norm_num

/-- A direction of length one is divided by one. -/
theorem unit_of_norm_one {p : Point ℝ} (h : p.norm = 1) : p.unit = p := by
  unfold unit dividedBy
  rw [h, div_one, div_one, div_one]

end Point

namespace Axis

theorem rotate_x (angle : ℝ) (v : Point ℝ) :
    x.rotate angle v = ⟨v.x, Real.cos angle * v.y - Real.sin angle * v.z,
      Real.sin angle * v.y + Real.cos angle * v.z⟩ := by
  show (⟨1.0 * v.x + 0.0 * v.y + 0.0 * v.z,
    0.0 * v.x + Real.cos angle * v.y + -Real.sin angle * v.z,
    0.0 * v.x + Real.sin angle * v.y + Real.cos angle * v.z⟩ : Point ℝ) = _
  rw [Point.mk.injEq]
  norm_num
  ring

theorem rotate_y (angle : ℝ) (v : Point ℝ) :
    y.rotate angle v = ⟨Real.cos angle * v.x + Real.sin angle * v.z, v.y,
      Real.cos angle * v.z - Real.sin angle * v.x⟩ := by
  show (⟨Real.cos angle * v.x + 0.0 * v.y + Real.sin angle * v.z,
    0.0 * v.x + 1.0 * v.y + 0.0 * v.z,
    -Real.sin angle * v.x + 0.0 * v.y + Real.cos angle * v.z⟩ : Point ℝ) = _
  rw [Point.mk.injEq]
  norm_num
  ring

theorem rotate_z (angle : ℝ) (v : Point ℝ) :
    z.rotate angle v = ⟨Real.cos angle * v.x - Real.sin angle * v.y,
      Real.sin angle * v.x + Real.cos angle * v.y, v.z⟩ := by
  show (⟨Real.cos angle * v.x + -Real.sin angle * v.y + 0.0 * v.z,
    Real.sin angle * v.x + Real.cos angle * v.y + 0.0 * v.z,
    0.0 * v.x + 0.0 * v.y + 1.0 * v.z⟩ : Point ℝ) = _
  rw [Point.mk.injEq]
  norm_num
  ring

/-- A rotation keeps the product of two directions. -/
theorem dot_rotate (axis : Axis) (angle : ℝ) (p q : Point ℝ) :
    (axis.rotate angle p).dot (axis.rotate angle q) = p.dot q := by
  have hcircle : Real.cos angle ^ 2 + Real.sin angle ^ 2 = 1 := Real.cos_sq_add_sin_sq angle
  cases axis with
  | x =>
    simp only [rotate_x, Point.dot]
    linear_combination (p.y * q.y + p.z * q.z) * hcircle
  | y =>
    simp only [rotate_y, Point.dot]
    linear_combination (p.x * q.x + p.z * q.z) * hcircle
  | z =>
    simp only [rotate_z, Point.dot]
    linear_combination (p.x * q.x + p.y * q.y) * hcircle

/-- A rotation keeps the length of a direction. -/
theorem norm_rotate (axis : Axis) (angle : ℝ) (p : Point ℝ) :
    (axis.rotate angle p).norm = p.norm :=
  congrArg Real.sqrt (dot_rotate axis angle p p)

end Axis
end Arbor
