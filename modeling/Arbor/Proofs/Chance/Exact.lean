/-
# The twister over the real numbers

The twister makes its scalars from numbers of 53 bits. Divided by `2 ^ 53`
without rounding they are real numbers from zero, which may be drawn, to one,
which may not (`ExactTwister.unit_mem`). In all else the exact twister is the
twister.

Key definitions: `ExactTwister`, `Twister.whole`.
Key theorems: `Twister.unit_eq_whole`, `ExactTwister.unit_mem`.
-/
import Arbor.Proofs.Chance.Unit
import Arbor.Proofs.Scalar.Real

namespace Arbor

/-- The 53 bits that the next scalar is made of. -/
def Twister.whole (t : Twister) : UInt64 × Twister :=
  let (a, t) := t.next
  let (b, t) := t.next
  ((a >>> 5).toUInt64 * (67108864 : UInt64) + (b >>> 6).toUInt64, t)

theorem Twister.unit_eq_whole (t : Twister) :
    t.unit = (t.whole.1.toFloat / 9007199254740992.0, t.whole.2) := rfl

/-- A twister whose scalars are not rounded. -/
structure ExactTwister where
  twister : Twister

namespace ExactTwister

noncomputable instance : Generator ExactTwister ℝ where
  seeded seed := ⟨Twister.ofSeed seed⟩
  unit t := ((mkRat t.twister.whole.1.toNat (2 ^ 53) : ℝ), ⟨t.twister.whole.2⟩)
  below n pos t := ((t.twister.below n pos).1, ⟨(t.twister.below n pos).2⟩)

theorem unit_mem (t : ExactTwister) : (Generator.unit t).1 ∈ Set.Ico (0 : ℝ) 1 := by
  have hwhole : t.twister.whole.1.toNat < 9007199254740992 := Twister.whole_lt _ _
  have hcast : (t.twister.whole.1.toNat : ℝ) < 9007199254740992 := by exact_mod_cast hwhole
  show ((mkRat t.twister.whole.1.toNat (2 ^ 53) : ℚ) : ℝ) ∈ Set.Ico (0 : ℝ) 1
  rw [Rat.mkRat_eq_div]
  push_cast
  exact ⟨by positivity, (div_lt_one (by positivity)).2 hcast⟩

end ExactTwister
end Arbor
