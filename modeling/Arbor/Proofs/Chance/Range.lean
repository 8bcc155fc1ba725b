/-
# Draws stay in their range

Over the real numbers a draw between two bounds is the lower one plus a part of
their difference (`Generator.uniform_real`), and the part is a scalar of the unit
interval. So whatever generator it is that keeps to the unit interval, no draw
leaves its range (`Generator.uniform_mem`), and the base angle is no farther from
its center than the spread (`Generator.baseAngle_mem`).

Key theorems: `Generator.uniform_real`, `Generator.uniform_mem`,
`Generator.baseAngle_mem`, `Jitter.le_of_ofRange`.
-/
import Arbor.Chance.Jitter
import Arbor.Proofs.Chance.Requests
import Arbor.Proofs.Scalar.Real

namespace Arbor

variable {γ : Type} [Generator γ ℝ]

namespace Generator

theorem uniform_real (low high : Quantity ℝ) (g : γ) :
    uniform low high g =
      (some (low.real + (high.real - low.real) * (Generator.unit g).1), (Generator.unit g).2) := by
  obtain ⟨width, hwidth, hreal⟩ := Quantity.minus?_real high low
  unfold uniform
  simp only [hwidth, Quantity.value?_real, hreal]
  rfl

variable (unit_mem : ∀ g : γ, (Generator.unit g).1 ∈ Set.Ico (0 : ℝ) 1)

include unit_mem

theorem uniform_mem {low high : Quantity ℝ} (hle : low.real ≤ high.real) {g left : γ} {x : ℝ}
    (h : uniform low high g = (some x, left)) : x ∈ Set.Icc low.real high.real := by
  rw [uniform_real] at h
  obtain rfl : _ = x := Option.some.inj (congrArg Prod.fst h)
  obtain ⟨hzero, hone⟩ := unit_mem g
  have hwidth : 0 ≤ high.real - low.real := sub_nonneg.2 hle
  have hpart : (high.real - low.real) * (Generator.unit g).1 ≤ high.real - low.real :=
    mul_le_of_le_one_right hwidth hone.le
  exact ⟨le_add_of_nonneg_right (mul_nonneg hwidth hzero), by linarith⟩

/-- The base angle is no farther from its center than the spread. -/
theorem baseAngle_mem {center spread : Quantity ℝ} (hspread : 0 ≤ spread.real) {g left : γ}
    {angle : ℝ} (h : Arbor.baseAngle center spread g = (some angle, left)) :
    angle ∈ Set.Icc (Scalar.radians (center.real - spread.real))
      (Scalar.radians (center.real + spread.real)) := by
  obtain ⟨middle, offset, hmiddle, hoffset, rfl⟩ := baseAngle_eq_some h
  rw [Quantity.value?_real] at hmiddle
  obtain rfl : center.real = middle := Option.some.inj hmiddle
  have hle : spread.negated.real ≤ spread.real := by
    rw [Quantity.real_negated]
    linarith
  obtain ⟨hlow, hhigh⟩ := uniform_mem unit_mem hle hoffset
  rw [Quantity.real_negated] at hlow
  exact ⟨Scalar.radians_le_radians (by linarith), Scalar.radians_le_radians (by linarith)⟩

end Generator

theorem Jitter.le_of_ofRange {low high : Quantity ℝ} {jitter : Jitter ℝ}
    (h : ofRange low high = .ok jitter) : 0 < low.real ∧ low.real ≤ high.real := by
  unfold ofRange at h
  split at h
  · rename_i hgood
    obtain ⟨hpositive, hle⟩ := Bool.and_eq_true_iff.1 hgood
    exact ⟨Quantity.positive_iff_real.1 hpositive, Quantity.atMost_iff_real.1 hle⟩
  · cases h

end Arbor
