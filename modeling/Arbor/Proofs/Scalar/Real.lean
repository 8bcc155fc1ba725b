/-
# The real numbers as scalars

Read over the real numbers, the geometry of this library is exact: every
scalar is finite, and the smaller and the larger of two scalars are the
minimum and the maximum. No whole number is beyond all scalars, so every
quantity is a real number.

Key definitions: `Quantity.real`.
Key theorems: `Scalar.least_real`, `Scalar.greatest_real`,
`Scalar.magnitude_real`, `Scalar.finite_real`, `Quantity.value?_real`,
`Quantity.positive_iff_real`, `Quantity.notNegative_iff_real`,
`Quantity.atMost_iff_real`, `Quantity.minus?_real`.
-/
import Mathlib
import Arbor.Quantity

namespace Arbor

noncomputable instance : Scalar ℝ where
  ofInt n := (n : ℝ)
  ofRatio? n d := some ((n : ℝ) / (d : ℝ))
  sqrt := Real.sqrt
  sin := Real.sin
  cos := Real.cos
  arctan := Real.arctan
  pi := Real.pi
  isInfinite _ := false
  intLe n x := decide ((n : ℝ) ≤ x)
  leInt x n := decide (x ≤ (n : ℝ))
  decLt := inferInstance
  decLe := inferInstance

namespace Scalar

@[simp] theorem isInfinite_real (x : ℝ) : Scalar.isInfinite x = false := rfl

@[simp] theorem finite_real (x : ℝ) : Scalar.finite x = true := by
  simp [Scalar.finite]

@[simp] theorem least_real (a b : ℝ) : Scalar.least a b = min a b := by
  unfold Scalar.least
  rw [if_pos le_rfl, min_def]

@[simp] theorem greatest_real (a b : ℝ) : Scalar.greatest a b = max a b := by
  unfold Scalar.greatest
  rw [if_pos le_rfl]
  by_cases h : b ≤ a
  · rw [if_pos h, max_eq_left h]
  · rw [if_neg h, max_eq_right (not_le.1 h).le]

@[simp] theorem magnitude_real (x : ℝ) : Scalar.magnitude x = |x| := by
  have hzero : (0.0 : ℝ) = 0 := by norm_num
  rw [Scalar.magnitude, hzero]
  by_cases h : x < 0
  · rw [if_pos h, abs_of_neg h]
  · rw [if_neg h, abs_of_nonneg (not_lt.1 h)]

theorem radians_le_radians {x y : ℝ} (h : x ≤ y) : radians x ≤ radians y := by
  have hpi : (0 : ℝ) ≤ Scalar.pi / 180.0 := div_nonneg Real.pi_pos.le (by norm_num)
  exact mul_le_mul_of_nonneg_right h hpi

end Scalar

namespace Quantity

/-- A quantity as a real number. -/
noncomputable def real : Quantity ℝ → ℝ
  | whole n => n
  | scalar x => x

theorem value?_real (q : Quantity ℝ) : q.value? = some q.real := by
  cases q with
  | whole n =>
    show some ((n : ℝ) / ((1 : ℕ) : ℝ)) = some (n : ℝ)
    rw [Nat.cast_one, div_one]
  | scalar x => rfl

theorem half?_real (q : Quantity ℝ) : q.half? = some (q.real / 2) := by
  cases q with
  | whole n =>
    show some ((n : ℝ) / ((2 : ℕ) : ℝ)) = some ((n : ℝ) / 2)
    rw [Nat.cast_ofNat]
  | scalar x =>
    show some (x / 2.0) = some (x / 2)
    norm_num

theorem real_negated (q : Quantity ℝ) : q.negated.real = -q.real := by
  cases q with
  | whole n => exact Int.cast_neg n
  | scalar x => rfl

theorem positive_iff_real {q : Quantity ℝ} : q.positive = true ↔ 0 < q.real := by
  cases q with
  | whole n => simp [positive, real]
  | scalar x =>
    show decide ((0.0 : ℝ) < x) = true ↔ 0 < x
    norm_num

theorem notNegative_iff_real {q : Quantity ℝ} : q.notNegative = true ↔ 0 ≤ q.real := by
  cases q with
  | whole n => simp [notNegative, real]
  | scalar x =>
    show decide ((0.0 : ℝ) ≤ x) = true ↔ 0 ≤ x
    norm_num

theorem atMost_iff_real {p q : Quantity ℝ} : p.atMost q = true ↔ p.real ≤ q.real := by
  cases p with
  | whole m =>
    cases q with
    | whole n => simp [atMost, real]
    | scalar y => exact decide_eq_true_iff
  | scalar x =>
    cases q with
    | whole n => exact decide_eq_true_iff
    | scalar y => exact decide_eq_true_iff

/-- No difference of two quantities is beyond the real numbers. -/
theorem minus?_real (p q : Quantity ℝ) : ∃ d, p.minus? q = some d ∧ d.real = p.real - q.real := by
  have hrounded : (do some (scalar ((← p.value?) - (← q.value?)))) =
      some (scalar (p.real - q.real)) := by
    rw [value?_real, value?_real]
    rfl
  cases p with
  | whole m =>
    cases q with
    | whole n => exact ⟨.whole (m - n), rfl, Int.cast_sub m n⟩
    | scalar y => exact ⟨_, hrounded, rfl⟩
  | scalar x =>
    cases q with
    | whole n => exact ⟨_, hrounded, rfl⟩
    | scalar y => exact ⟨_, hrounded, rfl⟩

end Quantity
end Arbor
