/-
# Rounding a quotient

Every printed or stored number of this library is a quotient of whole numbers
that has been rounded once. `roundEven` is that one rounding: to the nearest
whole number, and a half goes to the even neighbour.

The quotients are made of powers of two and ten, which `Power` fixes.

Key definitions: `Power.core`, `roundEven`.
Key theorems: `roundEven_eq_div_or`, `roundEven_mul`.
-/

namespace Arbor

namespace Power

/-- Powers as the core language has them, so that a number means the same
whatever else is imported. -/
@[default_instance 20000]
scoped instance (priority := high) core {α : Type} [NatPow α] : Pow α Nat := instPowNat

end Power

/-- The whole number nearest to `num / den`; of two equally near ones, the
even one. -/
def roundEven (num den : Nat) : Nat :=
  let q := num / den
  let r := num % den
  if 2 * r < den then q else if den < 2 * r then q + 1 else q + q % 2

/-- Rounding goes to one of the two neighbours of the quotient. -/
theorem roundEven_eq_div_or (num den : Nat) :
    roundEven num den = num / den ∨ roundEven num den = num / den + 1 := by
  simp only [roundEven]
  split
  · exact Or.inl rfl
  · split
    · exact Or.inr rfl
    · rcases Nat.mod_two_eq_zero_or_one (num / den) with h | h <;> simp [h]

/-- A quotient without a remainder is kept. -/
theorem roundEven_mul (q den : Nat) (h : 0 < den) : roundEven (q * den) den = q := by
  simp [roundEven, Nat.mul_div_cancel _ h, h]

end Arbor
