/-
# The real numbers with an undefined one

Among the real numbers a division by zero has some result, so what is computed
with them cannot show that one was made. Here it has none: a partial real
number is a real number or undefined. A quotient by zero and the root of a
number below zero are undefined, and so is everything that is computed from
what is undefined. As for floating-point numbers every comparison with an
undefined number fails, so that a scalar is defined if it is at most itself
(`Point.Defined`).

A computation without such quotients and roots gives what it gives among the
real numbers. The lemmas for that carry `PartialReal.real` outwards through one
operation each.

Key definitions: `PartialReal`, `Point.ofReal`, `Point.Defined`.
Key theorems: `PartialReal.real_div`, `PartialReal.div_real_zero`,
`PartialReal.greatest_real`, `PartialReal.magnitude_real`, `Point.norm_ofReal`,
`Point.dividedBy_ofReal`, `Point.defined_ofReal`.
-/
import Arbor.Proofs.Point.Norm

namespace Arbor

/-- A real number, or none where there is none. -/
inductive PartialReal where
  | undefined
  | real (x : ℝ)

namespace PartialReal

/-- The result of an operation on one number. -/
def lift (f : ℝ → ℝ) : PartialReal → PartialReal
  | real x => real (f x)
  | undefined => undefined

/-- The result of an operation on two numbers. -/
def lift₂ (f : ℝ → ℝ → ℝ) : PartialReal → PartialReal → PartialReal
  | real x, real y => real (f x y)
  | _, _ => undefined

/-- The quotient of two numbers, if the second one is not zero. -/
noncomputable def quotient : PartialReal → PartialReal → PartialReal
  | real x, real y => if y = 0 then undefined else real (x / y)
  | _, _ => undefined

/-- The root of a number that is not below zero. -/
noncomputable def root : PartialReal → PartialReal
  | real x => if x < 0 then undefined else real √x
  | undefined => undefined

/-- Whether two numbers are there and related. -/
def Related (r : ℝ → ℝ → Prop) : PartialReal → PartialReal → Prop
  | real x, real y => r x y
  | _, _ => False

open Classical in
noncomputable instance : Scalar PartialReal where
  add := lift₂ (· + ·)
  sub := lift₂ (· - ·)
  mul := lift₂ (· * ·)
  div := quotient
  neg := lift (- ·)
  lt := Related (· < ·)
  le := Related (· ≤ ·)
  ofScientific m s e := real (OfScientific.ofScientific m s e)
  ofInt n := real n
  ofRatio? n d := some (quotient (real n) (real d))
  sqrt := root
  sin := lift Real.sin
  cos := lift Real.cos
  arctan := lift Real.arctan
  pi := real Real.pi
  isInfinite _ := false
  intLe n x := decide (Related (· ≤ ·) (real n) x)
  leInt x n := decide (Related (· ≤ ·) x (real n))
  decLt := fun _ _ => propDecidable _
  decLe := fun _ _ => propDecidable _

section Operations

variable (x y : ℝ)

theorem real_neg : -real x = real (-x) := rfl

theorem real_lt : real x < real y ↔ x < y := Iff.rfl

theorem real_le : real x ≤ real y ↔ x ≤ y := Iff.rfl

variable {y} in
theorem real_div (hy : y ≠ 0) : real x / real y = real (x / y) := if_neg hy

theorem div_real_zero (a : PartialReal) : a / real 0 = undefined := by
  cases a with
  | undefined => rfl
  | real x => exact if_pos rfl

variable {x} in
theorem sqrt_real (hx : 0 ≤ x) : Scalar.sqrt (real x) = real √x := if_neg (not_lt.2 hx)

theorem mul_undefined (a : PartialReal) : a * undefined = undefined := by cases a <;> rfl

theorem add_undefined (a : PartialReal) : a + undefined = undefined := by cases a <;> rfl

theorem greatest_real : Scalar.greatest (real x) (real y) = real (Scalar.greatest x y) := by
  have hself : real x ≤ real x := le_refl x
  rw [Scalar.greatest_real, Scalar.greatest, if_pos hself]
  by_cases h : y ≤ x
  · rw [if_pos ((real_le y x).2 h), max_eq_left h]
  · rw [if_neg (mt (real_le y x).1 h), max_eq_right (not_le.1 h).le]

theorem magnitude_real : Scalar.magnitude (real x) = real (Scalar.magnitude x) := by
  have hzero : (0.0 : PartialReal) = real 0 := congrArg real (by norm_num)
  rw [Scalar.magnitude_real, Scalar.magnitude, hzero]
  by_cases h : x < 0
  · rw [if_pos ((real_lt x 0).2 h), abs_of_neg h, real_neg]
  · rw [if_neg (mt (real_lt x 0).1 h), abs_of_nonneg (not_lt.1 h)]

end Operations

theorem not_undefined_le : ¬undefined ≤ undefined := id

end PartialReal

/-! ### Points -/

namespace Point

open PartialReal

/-- All coordinates of a point are numbers. -/
def Defined {α : Type} [Scalar α] (p : Point α) : Prop := p.x ≤ p.x ∧ p.y ≤ p.y ∧ p.z ≤ p.z

/-- A point with real coordinates. -/
def ofReal (p : Point ℝ) : Point PartialReal := ⟨real p.x, real p.y, real p.z⟩

/-- A point without any coordinate. -/
def nowhere : Point PartialReal := ⟨undefined, undefined, undefined⟩

variable (p q : Point ℝ)

theorem defined_ofReal : p.ofReal.Defined := ⟨le_refl p.x, le_refl p.y, le_refl p.z⟩

theorem not_defined_nowhere : ¬nowhere.Defined := fun h => not_undefined_le h.1

theorem ofReal_sub : p.ofReal - q.ofReal = (p - q).ofReal := rfl

theorem cross_ofReal : p.ofReal.cross q.ofReal = (p.cross q).ofReal := rfl

theorem norm_ofReal : p.ofReal.norm = real p.norm := sqrt_real p.dot_self_nonneg

theorem dividedBy_ofReal {k : ℝ} (hk : k ≠ 0) :
    p.ofReal.dividedBy (real k) = (p.dividedBy k).ofReal := by
  rw [dividedBy, ofReal, real_div _ hk, real_div _ hk, real_div _ hk]
  rfl

theorem dividedBy_zero (p : Point PartialReal) : p.dividedBy (real 0) = nowhere := by
  rw [dividedBy, div_real_zero, div_real_zero, div_real_zero]
  rfl

theorem unit_ofReal (h : p.norm ≠ 0) : p.ofReal.unit = p.unit.ofReal := by
  rw [unit, norm_ofReal, dividedBy_ofReal p h]
  rfl

/-- A direction without length has no unit. -/
theorem unit_ofReal_of_norm_eq_zero (h : p.norm = 0) : p.ofReal.unit = nowhere := by
  rw [unit, norm_ofReal, h, dividedBy_zero]

theorem nowhere_cross (p : Point PartialReal) : nowhere.cross p = nowhere := rfl

theorem scale_nowhere (k : PartialReal) : nowhere.scale k = nowhere := by
  rw [scale, nowhere, mul_undefined]

theorem nowhere_add (p : Point PartialReal) : nowhere + p = nowhere := rfl

theorem add_nowhere (p : Point PartialReal) : p + nowhere = nowhere := by
  show (⟨p.x + undefined, p.y + undefined, p.z + undefined⟩ : Point PartialReal) = nowhere
  rw [add_undefined, add_undefined, add_undefined]
  rfl

end Point
end Arbor
