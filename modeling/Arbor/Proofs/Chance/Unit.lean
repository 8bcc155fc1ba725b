/-
# Scalars of the unit interval

A generator is bounded when every scalar it draws lies in the unit interval.
The twister is: it makes a number of 53 bits and divides it by `2 ^ 53`, and
neither the conversion nor the division can round it up beyond one or make it
negative.

Key definitions: `Generator.Bounded`.
Key theorems: `Twister.whole_lt`, `Twister.bounded`.
-/
import Arbor.Chance.Twister
import Arbor.Proofs.Number.Magnitude

namespace Arbor

/-- Every scalar drawn lies in the unit interval. -/
def Generator.Bounded (γ : Type) [Generator γ Float] : Prop :=
  ∀ g : γ, 0.0 ≤ (Generator.unit g).1 ∧ (Generator.unit g).1 ≤ 1.0

namespace Twister

open Float.Model

/-- The 53 bits of a scalar. -/
theorem whole_lt (a b : UInt32) :
    ((a >>> 5).toUInt64 * (67108864 : UInt64) + (b >>> 6).toUInt64).toNat < 2 ^ 53 := by
  have ha : (a >>> 5).toUInt64.toNat = a.toNat / 2 ^ 5 := by
    simp [Nat.shiftRight_eq_div_pow]
  have hb : (b >>> 6).toUInt64.toNat = b.toNat / 2 ^ 6 := by
    simp [Nat.shiftRight_eq_div_pow]
  have hfactor : (67108864 : UInt64).toNat = 67108864 := rfl
  have halt := a.toNat_lt
  have hblt := b.toNat_lt
  rw [UInt64.toNat_add, UInt64.toNat_mul, ha, hb, hfactor]
  omega

/-- A number of 53 bits is converted without leaving its range. -/
theorem within_toFloat {n : UInt64} (h : n.toNat < 2 ^ 53) :
    Binary.within 53 n.toFloat ∧ Binary.Unsigned n.toFloat.toModel.unpack := by
  have hsmall : Binary.Small 53 (n.toNat : Int).natAbs 0 := ⟨by decide, h.le⟩
  have hwithin : Binary.Within 53 (UnpackedFloat.normalize .binary64 (n.toNat : Int) 0 .positive) :=
    Binary.within_normalize (by decide) hsmall _
  have hunsigned :
      Binary.Unsigned (UnpackedFloat.normalize .binary64 (n.toNat : Int) 0 .positive) :=
    Binary.unsigned_normalize (Int.natCast_nonneg _) _ _
  exact ⟨Binary.within_unpack_pack (by decide) hwithin,
    Binary.unsigned_unpack_pack (by decide) hwithin hunsigned⟩

/-- Whatever its state, the twister draws from the unit interval. -/
theorem bounded : Generator.Bounded Twister := by
  intro t
  show 0.0 ≤ (unit t).1 ∧ (unit t).1 ≤ 1.0
  unfold unit
  dsimp only
  have hwhole := whole_lt t.next.1 t.next.2.next.1
  generalize (t.next.1 >>> 5).toUInt64 * (67108864 : UInt64) +
    (t.next.2.next.1 >>> 6).toUInt64 = whole at hwhole
  obtain ⟨hwithin, hunsigned⟩ := within_toFloat hwhole
  have hdivisor : (9007199254740992.0 : Float).toModel.unpack =
      .finite .positive (2 ^ 52) 1 (by decide) := rfl
  have hquotient : Binary.within 0 (whole.toFloat / 9007199254740992.0) :=
    Binary.within_div_pow hdivisor (by decide) (by decide) hwithin
  rw [Binary.unit_iff]
  refine ⟨hquotient, Binary.unsigned_unpack_pack (k := 0) (by decide) ?_ ?_⟩
  · rw [hdivisor]
    exact Binary.Within.div_pow (by decide) hwithin
  · rw [hdivisor]
    exact Binary.unsigned_div hunsigned

end Twister
end Arbor
