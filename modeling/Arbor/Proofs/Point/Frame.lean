/-
# Directions at right angles

Two directions of length one, at right angles to each other and to an axis,
span the circles across the axis. What is needed of two places on such a circle
is their product and their cross product: they depend only on the angle between
them (`Point.Frame.dot_spread`, `Point.Frame.cross_spread`).

Key definitions: `Point.Frame`, `Point.spread`, `Point.angle`.
Key theorems: `Point.unit_dot`, `Point.frame_of_unit`,
`Point.Frame.dot_spread`, `Point.Frame.cross_spread`, `Point.Frame.norm_spread`.
-/
import Arbor.Proofs.Point.Norm

namespace Arbor
namespace Point

/-! ### Units -/

theorem dot_comm (p q : Point ℝ) : p.dot q = q.dot p := by
  simp only [dot]
  ring

theorem scale_dot (k : ℝ) (p q : Point ℝ) : (p.scale k).dot q = k * p.dot q := by
  simp only [dot, scale]
  ring

theorem unit_dot (p q : Point ℝ) : p.unit.dot q = p.dot q / p.norm := by
  simp only [unit, dividedBy, dot]
  ring

/-- The product of a direction with its unit is its length. -/
theorem unit_dot_self (p : Point ℝ) : p.unit.dot p = p.norm := by
  rw [unit_dot, ← norm_sq, sq, mul_self_div_self]

theorem dot_unit_unit {p : Point ℝ} (h : p.norm ≠ 0) : p.unit.dot p.unit = 1 := by
  rw [unit_dot, dot_comm, unit_dot_self, div_self h]

/-- The angle between two directions. -/
noncomputable def angle (p q : Point ℝ) : ℝ := Real.arccos (p.dot q / (p.norm * q.norm))

/-! ### Frames -/

/-- Two directions of length one that are at right angles to each other and to
an axis. From the first one to the second it turns against the axis. -/
structure Frame (axis right forward : Point ℝ) : Prop where
  right_unit : right.dot right = 1
  forward_unit : forward.dot forward = 1
  right_forward : right.dot forward = 0
  right_axis : right.dot axis = 0
  forward_axis : forward.dot axis = 0
  cross : right.cross forward = axis.scale (-1)

/-- A direction across an axis and the product of both make a frame. -/
theorem frame_of_unit {axis right : Point ℝ} (haxis : axis.dot axis = 1)
    (hright : right.dot right = 1) (hacross : right.dot axis = 0) :
    Frame axis right (right.cross axis) := by
  refine ⟨hright, ?_, ?_, hacross, ?_, ?_⟩
  · have hsquares : (right.cross axis).dot (right.cross axis) =
        right.dot right * axis.dot axis - right.dot axis ^ 2 := by
      simp only [dot, Point.cross]
      ring
    rw [hsquares, haxis, hright, hacross]
    norm_num
  · simp only [dot, Point.cross]
    ring
  · simp only [dot, Point.cross]
    ring
  · simp only [dot] at hright hacross
    simp only [Point.cross, scale, mk.injEq]
    refine ⟨?_, ?_, ?_⟩
    · linear_combination right.x * hacross - axis.x * hright
    · linear_combination right.y * hacross - axis.y * hright
    · linear_combination right.z * hacross - axis.z * hright

/-- A place on the circle that two directions span, by a cosine and a sine. -/
def spread {α : Type} [Scalar α] (right forward : Point α) (radius cosine sine : α) : Point α :=
  (right.scale cosine + forward.scale sine).scale radius

namespace Frame

variable {axis right forward : Point ℝ} (frame : Frame axis right forward) (radius c s c' s' : ℝ)

include frame

theorem dot_spread : (spread right forward radius c s).dot (spread right forward radius c' s') =
    radius ^ 2 * (c * c' + s * s') := by
  have hdot : (spread right forward radius c s).dot (spread right forward radius c' s') =
      radius ^ 2 * (c * c' * right.dot right + (c * s' + s * c') * right.dot forward +
        s * s' * forward.dot forward) := by
    simp only [spread, dot, scale, add_x, add_y, add_z]
    ring
  rw [hdot, frame.right_unit, frame.forward_unit, frame.right_forward]
  ring

theorem dot_spread_axis : (spread right forward radius c s).dot axis = 0 := by
  have hdot : (spread right forward radius c s).dot axis =
      radius * (c * right.dot axis + s * forward.dot axis) := by
    simp only [spread, dot, scale, add_x, add_y, add_z]
    ring
  rw [hdot, frame.right_axis, frame.forward_axis]
  ring

theorem cross_spread : (spread right forward radius c s).cross (spread right forward radius c' s') =
    axis.scale (-(radius ^ 2 * (c * s' - s * c'))) := by
  have hcross : (spread right forward radius c s).cross (spread right forward radius c' s') =
      (right.cross forward).scale (radius ^ 2 * (c * s' - s * c')) := by
    simp only [spread, Point.cross, scale, add_x, add_y, add_z, mk.injEq]
    exact ⟨by ring, by ring, by ring⟩
  rw [hcross, frame.cross]
  simp only [scale, mk.injEq]
  exact ⟨by ring, by ring, by ring⟩

/-- A place on the circle is as far from its centre as the radius says. -/
theorem norm_spread (hradius : 0 ≤ radius) (hcircle : c ^ 2 + s ^ 2 = 1) :
    (spread right forward radius c s).norm = radius := by
  have hdot := frame.dot_spread radius c s c s
  rw [← sq, ← sq, hcircle, mul_one, ← norm_sq] at hdot
  exact (sq_eq_sq₀ (norm_nonneg _) hradius).1 hdot

end Frame

end Point
end Arbor
