/-
# How large a floating-point number can get

A number within `k` is finite and at most `2 ^ k` away from zero. Powers of
two can be represented exactly, so rounding to the nearest number never
leaves such a range, and neither does a number that is stored and read
again, unless the range reaches beyond the greatest exponent. Sums, products
and quotients by a power of two are bounded from this, one rounding at a time.

Key definitions: `Binary.Small`, `Binary.Within`, `Binary.within`.
Key theorems: `Binary.roundedMantissa_shift_le`, `Binary.within_roundWithAccuracy`,
`Binary.within_unpack_pack`, `Binary.within_mul`, `Binary.within_add`,
`Binary.within_div_pow`, `Binary.unit_iff`.
-/
import Mathlib
import Arbor.Number.Binary

namespace Arbor
namespace Binary

open Float.Model Float.Model.UnpackedFloat

/-! ### Rounding a mantissa -/

theorem roundToNearestEven_le (m : Nat) (accuracy : Accuracy) :
    Accuracy.roundToNearestEven m accuracy ≤ m + 1 := by
  cases accuracy with
  | exact => exact Nat.le_succ m
  | inexact order =>
    cases order with
    | lt => exact Nat.le_succ m
    | eq =>
      show m + m % 2 ≤ m + 1
      omega
    | gt => exact Nat.le_refl _

theorem le_roundToNearestEven (m : Nat) (accuracy : Accuracy) :
    m ≤ Accuracy.roundToNearestEven m accuracy := by
  cases accuracy with
  | exact => exact Nat.le_refl m
  | inexact order =>
    cases order with
    | lt => exact Nat.le_refl m
    | eq => exact Nat.le_add_right m _
    | gt => exact Nat.le_succ m

@[simp] theorem mantissa_ofMantissaAndAccuracy (m : Nat) (accuracy : Accuracy) :
    (ExtendedMantissa.ofMantissaAndAccuracy m accuracy).mantissa = m := by
  cases accuracy with
  | exact => rfl
  | inexact order => cases order <;> rfl

theorem mantissa_shift (em : ExtendedMantissa) (n : Nat) :
    (em >>> n).mantissa = em.mantissa / 2 ^ n := by
  induction n with
  | zero => exact (Nat.div_one _).symm
  | succ n ih =>
    show (em >>> n).mantissa / 2 = em.mantissa / 2 ^ (n + 1)
    rw [ih, Nat.div_div_eq_div_mul, Nat.pow_succ]

/-- Nothing is lost when only zeros are shifted out. -/
theorem shift_exact (b n : Nat) :
    (⟨b * 2 ^ n, false, false⟩ : ExtendedMantissa) >>> n = ⟨b, false, false⟩ := by
  induction n generalizing b with
  | zero => rw [Nat.pow_zero, Nat.mul_one]; rfl
  | succ n ih =>
    have hpow : b * 2 ^ (n + 1) = 2 * b * 2 ^ n := by
      rw [Nat.pow_succ]
      ring
    show ExtendedMantissa.shiftRightOne
      ((⟨b * 2 ^ (n + 1), false, false⟩ : ExtendedMantissa) >>> n) = ⟨b, false, false⟩
    rw [hpow, ih]
    simp [ExtendedMantissa.shiftRightOne]

/-- A value is not rounded beyond a whole number that bounds it. -/
theorem roundedMantissa_shift_le {m b n : Nat} {accuracy : Accuracy}
    (h : m < b * 2 ^ n ∨ m = b * 2 ^ n ∧ accuracy = .exact) :
    (ExtendedMantissa.ofMantissaAndAccuracy m accuracy >>> n).roundedMantissa ≤ b := by
  rcases h with hlt | ⟨rfl, rfl⟩
  · have hquotient : m / 2 ^ n < b := (Nat.div_lt_iff_lt_mul (Nat.two_pow_pos n)).2 hlt
    have hround := roundToNearestEven_le
      (ExtendedMantissa.ofMantissaAndAccuracy m accuracy >>> n).mantissa
      (ExtendedMantissa.ofMantissaAndAccuracy m accuracy >>> n).accuracy
    rw [mantissa_shift, mantissa_ofMantissaAndAccuracy] at hround
    unfold ExtendedMantissa.roundedMantissa
    rw [mantissa_shift, mantissa_ofMantissaAndAccuracy]
    omega
  · show ((⟨b * 2 ^ n, false, false⟩ : ExtendedMantissa) >>> n).roundedMantissa ≤ b
    rw [shift_exact]
    exact Nat.le_refl b

/-! ### Ranges -/

/-- A mantissa and an exponent of at most `2 ^ k`. -/
def Small (k : Int) (m : Nat) (e : Int) : Prop := e ≤ k ∧ m ≤ 2 ^ (k - e).toNat

instance (k : Int) (m : Nat) (e : Int) : Decidable (Small k m e) :=
  inferInstanceAs (Decidable (_ ∧ _))

/-- A finite number of at most `2 ^ k`, with an exponent that can be stored. -/
def Within (k : Int) : UnpackedFloat → Prop
  | .zero _ => True
  | .finite _ m e _ => -1074 ≤ e ∧ Small k m e
  | .infinity _ => False
  | .notANumber => False

instance (k : Int) : DecidablePred (Within k)
  | .zero _ => isTrue trivial
  | .finite _ m e _ => inferInstanceAs (Decidable (-1074 ≤ e ∧ Small k m e))
  | .infinity _ => isFalse id
  | .notANumber => isFalse id

theorem Small.mono {j k : Int} (hjk : j ≤ k) {m : Nat} {e : Int} (h : Small j m e) :
    Small k m e :=
  ⟨h.1.trans hjk, h.2.trans (Nat.pow_le_pow_right (by decide) (by omega))⟩

theorem Within.mono {j k : Int} (hjk : j ≤ k) : ∀ {u : UnpackedFloat}, Within j u → Within k u
  | .zero _, _ => trivial
  | .finite _ _ _ _, h => ⟨h.1, h.2.mono hjk⟩

theorem Small.log2_le {k : Int} {m : Nat} {e : Int} (h : Small k m e) :
    m.log2 ≤ (k - e).toNat := by
  by_cases h0 : m = 0
  · rw [h0, Nat.log2_zero]
    exact Nat.zero_le _
  · have hle : 2 ^ m.log2 ≤ 2 ^ (k - e).toNat := (Nat.log2_self_le h0).trans h.2
    exact (Nat.pow_le_pow_iff_right (by decide)).1 hle

/-- The exponent that a number is brought to for storing is not above its
range. -/
theorem targetExponent_le {k : Int} (hk : -1074 ≤ k) {m : Nat} {e : Int} (h : Small k m e) :
    Format.binary64.targetExponent (totalExponent m e) ≤ k := by
  have hlog := h.log2_le
  have he := h.1
  show max ((m.log2 : Int) + 1 + e - 53) (-1074) ≤ k
  omega

/-- One shift to the exponent for storing. -/
theorem small_shift {k : Int} (hk : -1074 ≤ k) {m : Nat} {e : Int} (accuracy : Accuracy)
    (he : e ≤ k) (h : m < 2 ^ (k - e).toNat ∨ m = 2 ^ (k - e).toNat ∧ accuracy = .exact) :
    -1074 ≤ (shiftToTargetExponent .binary64 m e accuracy).2 ∧
      Small k (shiftToTargetExponent .binary64 m e accuracy).1.roundedMantissa
        (shiftToTargetExponent .binary64 m e accuracy).2 := by
  have hsmall : Small k m e := ⟨he, by omega⟩
  have hle := targetExponent_le hk hsmall
  have hge : -1074 ≤ Format.binary64.targetExponent (totalExponent m e) := le_max_right _ _
  unfold shiftToTargetExponent shiftToExponent
  generalize Format.binary64.targetExponent (totalExponent m e) = target at hle hge
  have hpow : 2 ^ (k - e).toNat =
      2 ^ (k - (e + (target - e).toNat)).toNat * 2 ^ (target - e).toNat := by
    rw [← Nat.pow_add]
    congr 1
    omega
  rw [hpow] at h
  refine ⟨?_, ?_, roundedMantissa_shift_le h⟩
  · show -1074 ≤ e + ((target - e).toNat : Int)
    omega
  · show e + ((target - e).toNat : Int) ≤ k
    omega

/-- Rounding keeps to a range. -/
theorem within_roundWithAccuracy {k : Int} (hk : -1074 ≤ k) (s : Sign) {m : Nat} {e : Int}
    {accuracy : Accuracy} (he : e ≤ k)
    (h : m < 2 ^ (k - e).toNat ∨ m = 2 ^ (k - e).toNat ∧ accuracy = .exact) :
    Within k (roundWithAccuracy .binary64 s m e accuracy) := by
  obtain ⟨-, hexponent, hrounded⟩ := small_shift hk accuracy he h
  obtain ⟨hlow, hexponent, hfinal⟩ := small_shift hk .exact hexponent
    ((Nat.lt_or_eq_of_le hrounded).imp id fun heq => ⟨heq, rfl⟩)
  unfold roundWithAccuracy
  dsimp only
  split
  · exact trivial
  · exact ⟨hlow, hexponent, (le_roundToNearestEven _ _).trans hfinal⟩

theorem within_round {k : Int} (hk : -1074 ≤ k) (s : Sign) {m : Nat} {e : Int} (h : Small k m e) :
    Within k (UnpackedFloat.round .binary64 s m e) := by
  obtain ⟨he, hm⟩ := h
  unfold UnpackedFloat.round decreaseExponent
  generalize Format.binary64.targetExponent (totalExponent m e) = target
  have hshift : m <<< (e - target).toNat ≤ 2 ^ (k - (e - (e - target).toNat)).toNat := by
    rw [Nat.shiftLeft_eq]
    calc m * 2 ^ (e - target).toNat ≤ 2 ^ (k - e).toNat * 2 ^ (e - target).toNat :=
          Nat.mul_le_mul_right _ hm
      _ = 2 ^ (k - (e - (e - target).toNat)).toNat := by
          rw [← Nat.pow_add]
          congr 1
          omega
  exact within_roundWithAccuracy hk s (by omega)
    ((Nat.lt_or_eq_of_le hshift).imp id fun heq => ⟨heq, rfl⟩)

/-! ### Storing -/

theorem ofBitVec_toBitVec (s : Sign) : Sign.ofBitVec s.toBitVec = s := by
  cases s <;> rfl

theorem unpackSign_packComponents (s : Sign) (exponent : BitVec 11) (mantissa : BitVec 52) :
    Sign.ofBitVec (unpackSign (packComponents .binary64 s exponent mantissa)) = s := by
  have hsign : unpackSign (packComponents .binary64 s exponent mantissa) = s.toBitVec := by
    simp only [unpackSign, packComponents, BitVec.extractLsb]
    rw [BitVec.extractLsb'_append_eq_of_le (by omega),
      BitVec.extractLsb'_append_eq_of_le (by omega)]
    cases s <;> rfl
  rw [hsign, ofBitVec_toBitVec]

/-- A mantissa read with its leading one. -/
theorem toNat_one_append (v : BitVec 52) : (1#1 ++ v).toNat = 2 ^ 52 + v.toNat := by
  rw [BitVec.toNat_append, ← Nat.shiftLeft_add_eq_or_of_lt v.isLt]
  rfl

/-- A stored number with a leading one. -/
theorem unpack_packComponents_normal (s : Sign) {exponent : BitVec 11} (v : BitVec 52)
    (hinf : exponent ≠ -1#11) (hzero : exponent ≠ 0#11) :
    UnpackedFloat.unpack .binary64 (packComponents .binary64 s exponent v) =
      .finite s (2 ^ 52 + v.toNat) (exponent.toNat - 1075) (by omega) := by
  unfold UnpackedFloat.unpack
  simp only [unpackMantissa_packComponents, unpackExponent_packComponents,
    unpackSign_packComponents]
  rw [if_neg hinf, if_neg hzero]
  congr 1
  exact toNat_one_append v

/-- A stored number without a leading one. -/
theorem unpack_packComponents_least (s : Sign) (v : BitVec 52) :
    UnpackedFloat.unpack .binary64 (packComponents .binary64 s 0#11 v) = .zero s ∨
      ∃ hv, UnpackedFloat.unpack .binary64 (packComponents .binary64 s 0#11 v) =
        .finite s v.toNat (-1074) hv := by
  unfold UnpackedFloat.unpack
  simp only [unpackMantissa_packComponents, unpackExponent_packComponents,
    unpackSign_packComponents]
  rw [if_neg (by decide), if_pos trivial]
  by_cases hv : v = 0#52
  · exact Or.inl (dif_pos hv)
  · have hpos : 0 < v.toNat := Nat.pos_of_ne_zero fun h => hv (BitVec.eq_of_toNat_eq h)
    rw [dif_neg hv]
    exact Or.inr ⟨hpos, rfl⟩

/-- A finite number that is stored comes back as it was or, with a mantissa
too short for its exponent, as one with the least exponent. -/
theorem unpack_pack_finite (s : Sign) {m : Nat} {e : Int} (hm : 0 < m) (hlow : -1074 ≤ e)
    (hhigh : e ≤ 971) :
    UnpackedFloat.unpack .binary64 (UnpackedFloat.pack .binary64 (.finite s m e hm)) =
      .finite s m e hm ∨
    UnpackedFloat.unpack .binary64 (UnpackedFloat.pack .binary64 (.finite s m e hm)) = .zero s ∨
    ∃ m' hm', m' ≤ m ∧
      UnpackedFloat.unpack .binary64 (UnpackedFloat.pack .binary64 (.finite s m e hm)) =
        .finite s m' (-1074) hm' := by
  have hbias : (e + (Format.binary64.exponentBias : Int) +
      (Format.binary64.mantissaBitsWithoutImplicit : Int)).toNat = (e + 1075).toNat := by
    show (e + 1023 + 52).toNat = (e + 1075).toNat
    congr 1
    omega
  unfold UnpackedFloat.pack
  simp only [hbias]
  have hfits : ¬ 2 ^ 11 ≤ (e + 1075).toNat + 1 := by omega
  rw [if_neg hfits]
  by_cases hlog : m.log2 + 1 = Format.binary64.mantissaBits
  · left
    have hlog52 : m.log2 = 52 := Nat.succ.inj hlog
    have hfrom : 2 ^ 52 ≤ m := by
      rw [← hlog52]
      exact Nat.log2_self_le (by omega)
    have hto : m < 2 ^ 53 := by
      have hlt := @Nat.lt_log2_self m
      rwa [hlog52] at hlt
    have hvalue : (BitVec.ofNat 11 (e + 1075).toNat).toNat = (e + 1075).toNat := by
      rw [BitVec.toNat_ofNat]
      omega
    have hinf : BitVec.ofNat 11 (e + 1075).toNat ≠ -1#11 := by
      intro heq
      rw [heq] at hvalue
      have : (-1#11 : BitVec 11).toNat = 2047 := rfl
      omega
    have hzero : BitVec.ofNat 11 (e + 1075).toNat ≠ 0#11 := by
      intro heq
      rw [heq] at hvalue
      have : (0#11 : BitVec 11).toNat = 0 := rfl
      omega
    rw [if_pos hlog, unpack_packComponents_normal s _ hinf hzero]
    congr 1
    · rw [BitVec.toNat_ofNat]
      omega
    · rw [hvalue]
      omega
  · right
    rw [if_neg hlog]
    rcases unpack_packComponents_least s (BitVec.ofNat 52 m) with hz | ⟨hv, hf⟩
    · exact Or.inl hz
    · refine Or.inr ⟨_, hv, ?_, hf⟩
      rw [BitVec.toNat_ofNat]
      exact Nat.mod_le m _

theorem unpack_pack_zero (s : Sign) :
    UnpackedFloat.unpack .binary64 (UnpackedFloat.pack .binary64 (.zero s)) = .zero s := by
  cases s <;> rfl

/-- A number within a range that is stored comes back within the range, if
the range does not reach beyond the greatest exponent. -/
theorem within_unpack_pack {k : Int} (hk : k ≤ 971) :
    ∀ {u : UnpackedFloat}, Within k u →
      Within k (UnpackedFloat.unpack .binary64 (UnpackedFloat.pack .binary64 u))
  | .zero s, _ => by
    rw [unpack_pack_zero]
    trivial
  | .finite s m e hm, ⟨hlow, hsmall⟩ => by
    rcases unpack_pack_finite s hm hlow (hsmall.1.trans hk) with
      hsame | hzero | ⟨m', hm', hle, hleast⟩
    · rw [hsame]
      exact ⟨hlow, hsmall⟩
    · rw [hzero]
      trivial
    · rw [hleast]
      refine ⟨Int.le_refl _, hlow.trans hsmall.1, ?_⟩
      calc m' ≤ 2 ^ (k - e).toNat := hle.trans hsmall.2
        _ ≤ 2 ^ (k - -1074).toNat := Nat.pow_le_pow_right (by decide) (by omega)

/-! ### Operations -/

theorem Within.neg {k : Int} : ∀ {u : UnpackedFloat}, Within k u → Within k u.neg
  | .zero _, _ => trivial
  | .finite _ _ _ _, h => h

theorem Within.mul {j k : Int} (hjk : -1074 ≤ j + k) :
    ∀ {u v : UnpackedFloat}, Within j u → Within k v →
      Within (j + k) (UnpackedFloat.mul .binary64 u v)
  | .zero _, .zero _, _, _ => trivial
  | .zero _, .finite _ _ _ _, _, _ => trivial
  | .finite _ _ _ _, .zero _, _, _ => trivial
  | .finite s m e _, .finite t n f _, ⟨_, he, hm⟩, ⟨_, hf, hn⟩ => by
    have hproduct : m * n ≤ 2 ^ (j + k - (e + f)).toNat := by
      calc m * n ≤ 2 ^ (j - e).toNat * 2 ^ (k - f).toNat := Nat.mul_le_mul hm hn
        _ = 2 ^ (j + k - (e + f)).toNat := by
            rw [← Nat.pow_add]
            congr 1
            omega
    exact within_roundWithAccuracy hjk (s * t) (by omega)
      ((Nat.lt_or_eq_of_le hproduct).imp id fun heq => ⟨heq, rfl⟩)

theorem within_normalize {k : Int} (hk : -1074 ≤ k) {z : Int} {e : Int} (h : Small k z.natAbs e)
    (s : Sign) : Within k (UnpackedFloat.normalize .binary64 z e s) := by
  unfold UnpackedFloat.normalize
  split
  · have hsame : (-z).toNat = z.natAbs := by
      rename_i hlt
      have := Int.compare_eq_lt.1 hlt
      omega
    rw [hsame]
    exact within_round hk _ h
  · trivial
  · have hsame : z.toNat = z.natAbs := by
      rename_i hgt
      have := Int.compare_eq_gt.1 hgt
      omega
    rw [hsame]
    exact within_round hk _ h

/-- A mantissa brought to a smaller exponent. -/
theorem Small.decrease {k : Int} {m : Nat} {e f : Int} (h : Small k m e) (hf : f ≤ e) :
    m <<< (e - f).toNat ≤ 2 ^ (k - f).toNat := by
  obtain ⟨he, hm⟩ := h
  rw [Nat.shiftLeft_eq]
  calc m * 2 ^ (e - f).toNat ≤ 2 ^ (k - e).toNat * 2 ^ (e - f).toNat := Nat.mul_le_mul_right _ hm
    _ = 2 ^ (k - f).toNat := by
        rw [← Nat.pow_add]
        congr 1
        omega

theorem natAbs_apply (s : Sign) (m : Nat) : (s.apply m).natAbs = m := by
  cases s with
  | negative => exact Int.natAbs_neg _
  | positive => rfl

theorem Within.add {k : Int} :
    ∀ {u v : UnpackedFloat}, Within k u → Within k v →
      Within (k + 1) (UnpackedFloat.add .binary64 u v)
  | .zero s, .zero t, _, _ => by
    show Within (k + 1) (if s == t then .zero s else .zero .positive)
    split <;> trivial
  | .zero _, .finite _ _ _ _, _, h => h.mono (by omega)
  | .finite _ _ _ _, .zero _, h, _ => h.mono (by omega)
  | .finite s m e _, .finite t n f _, ⟨hlow, hm⟩, ⟨_, hn⟩ => by
    have hleft := hm.decrease (Int.min_le_left e f)
    have hright := hn.decrease (Int.min_le_right e f)
    have hsum : Small (k + 1)
        (s.apply (m <<< (e - min e f).toNat) + t.apply (n <<< (f - min e f).toNat)).natAbs
        (min e f) := by
      have hk := hm.1
      refine ⟨by omega, ?_⟩
      have hdouble : 2 ^ (k + 1 - min e f).toNat = 2 ^ (k - min e f).toNat * 2 := by
        rw [← Nat.pow_succ]
        congr 1
        omega
      have habs := Int.natAbs_add_le (s.apply (m <<< (e - min e f).toNat))
        (t.apply (n <<< (f - min e f).toNat))
      rw [natAbs_apply, natAbs_apply] at habs
      omega
    have hk := hm.1
    exact within_normalize (by omega) hsum _

/-- A quotient by a power of two. -/
theorem Within.div_pow {k : Int} {p : Nat} {s : Sign} {f : Int} {pos : 0 < 2 ^ p}
    (hk : -1074 ≤ k - (p + f)) :
    ∀ {u : UnpackedFloat}, Within k u →
      Within (k - (p + f)) (UnpackedFloat.div .binary64 u (.finite s (2 ^ p) f pos))
  | .zero _, _ => trivial
  | .finite t m e hm, ⟨_, he, hle⟩ => by
    show Within (k - (p + f)) (roundWithAccuracy .binary64 (t / s)
      (divCore .binary64 m e (2 ^ p) f).1 (divCore .binary64 m e (2 ^ p) f).2.1
      (divCore .binary64 m e (2 ^ p) f).2.2)
    have htotal : totalExponent m e - totalExponent (2 ^ p) f ≤ k - (p + f) := by
      have hlog := Small.log2_le ⟨he, hle⟩
      show (m.log2 : Int) + 1 + e - (((2 ^ p).log2 : Int) + 1 + f) ≤ k - (p + f)
      rw [Nat.log2_two_pow]
      omega
    have htarget : Format.binary64.targetExponent (totalExponent m e - totalExponent (2 ^ p) f) ≤
        k - (p + f) := by
      show max (totalExponent m e - totalExponent (2 ^ p) f - 53) (-1074) ≤ k - (p + f)
      omega
    unfold divCore
    generalize Format.binary64.targetExponent (totalExponent m e - totalExponent (2 ^ p) f) = target
      at htarget
    refine within_roundWithAccuracy hk _ (by dsimp only; omega) ?_
    dsimp only
    generalize hn : (e - f - min (e - f) target).toNat = n
    have hbound : m <<< n ≤ 2 ^ (k - (p + f) - min (e - f) target).toNat * 2 ^ p := by
      rw [Nat.shiftLeft_eq, ← Nat.pow_add]
      calc m * 2 ^ n ≤ 2 ^ (k - e).toNat * 2 ^ n := Nat.mul_le_mul_right _ hle
        _ = 2 ^ ((k - (p + f) - min (e - f) target).toNat + p) := by
            rw [← Nat.pow_add]
            congr 1
            omega
    rcases Nat.lt_or_eq_of_le hbound with hlt | heq
    · exact Or.inl ((Nat.div_lt_iff_lt_mul (Nat.two_pow_pos p)).2 hlt)
    · right
      rw [heq, Nat.mul_div_cancel _ (Nat.two_pow_pos p), Nat.mul_mod_left]
      exact ⟨rfl, rfl⟩

/-! ### Floating-point numbers -/

/-- A floating-point number that is finite and at most `2 ^ k` away from
zero. -/
def within (k : Int) (x : Float) : Prop := Within k x.toModel.unpack

instance (k : Int) (x : Float) : Decidable (within k x) :=
  inferInstanceAs (Decidable (Within k x.toModel.unpack))

theorem within_neg {k : Int} (hk : k ≤ 971) {x : Float} (h : within k x) : within k (-x) :=
  within_unpack_pack hk (Within.neg h)

theorem within_mul {j k : Int} (hlow : -1074 ≤ j + k) (hhigh : j + k ≤ 971) {x y : Float}
    (hx : within j x) (hy : within k y) : within (j + k) (x * y) :=
  within_unpack_pack hhigh (Within.mul hlow hx hy)

theorem within_add {k : Int} (hk : k + 1 ≤ 971) {x y : Float} (hx : within k x)
    (hy : within k y) : within (k + 1) (x + y) :=
  within_unpack_pack hk (Within.add hx hy)

theorem isInf_of_within {k : Int} {x : Float} (h : within k x) : x.isInf = false := by
  show x.toModel.unpack.isInf = false
  unfold within at h
  cases hu : x.toModel.unpack with
  | zero s => rfl
  | finite s m e hm => rfl
  | infinity s =>
    rw [hu] at h
    exact h.elim
  | notANumber => rfl

theorem within_div_pow {k : Int} {x y : Float} {p : Nat} {s : Sign} {f : Int} {pos : 0 < 2 ^ p}
    (hy : y.toModel.unpack = .finite s (2 ^ p) f pos) (hlow : -1074 ≤ k - (p + f))
    (hhigh : k - (p + f) ≤ 971) (hx : within k x) : within (k - (p + f)) (x / y) := by
  refine within_unpack_pack hhigh ?_
  rw [hy]
  exact Within.div_pow hlow hx

/-! ### The unit interval -/

/-- A number that is read has a leading one or the least exponent. -/
theorem canonical_unpack {b : BitVec 64} {s : Sign} {m : Nat} {e : Int} {hm : 0 < m}
    (h : UnpackedFloat.unpack .binary64 b = .finite s m e hm) :
    m < 2 ^ 53 ∧ -1074 ≤ e ∧ (2 ^ 52 ≤ m ∨ e = -1074) := by
  have hmantissa : (@unpackMantissa .binary64 b).toNat < 2 ^ 52 :=
    (@unpackMantissa .binary64 b).isLt
  unfold UnpackedFloat.unpack at h
  dsimp only at h
  split at h
  · split at h <;> cases h
  · split at h
    · rename_i hleast
      split at h
      · cases h
      · have hexponent : (@unpackExponent .binary64 b).toNat = 0 := by rw [hleast]; rfl
        injection h with hs hm he
        subst hm
        have hbias : ((@unpackExponent .binary64 b).toNat : Int) - (1023 + 52) + 1 = e := he
        omega
    · rename_i hnormal
      have hexponent : (@unpackExponent .binary64 b).toNat ≠ 0 := fun h0 =>
        hnormal (BitVec.eq_of_toNat_eq h0)
      injection h with hs hm he
      have hvalue := toNat_one_append (@unpackMantissa .binary64 b)
      have hbias : ((@unpackExponent .binary64 b).toNat : Int) - (1023 + 52) = e := he
      have hsame : (1#1 ++ @unpackMantissa .binary64 b).toNat = m := hm
      omega

/-- Not below zero, unless undefined. -/
def Unsigned : UnpackedFloat → Prop
  | .finite s _ _ _ => s = .positive
  | .infinity s => s = .positive
  | _ => True

theorem le_iff_unpack {x y : Float} : x ≤ y ↔ x.toModel.unpack.le y.toModel.unpack = true := by
  show decide (x.toModel ≤ y.toModel) = true ↔ x.toModel.unpack.le y.toModel.unpack = true
  exact decide_eq_true_iff

/-- Positive numbers are compared by their exponents first. -/
theorem positive_le_iff {m n : Nat} {e f : Int} {hm : 0 < m} {hn : 0 < n} :
    (UnpackedFloat.finite .positive m e hm).le (.finite .positive n f hn) = true ↔
      e < f ∨ e = f ∧ m ≤ n := by
  show ((compare e f).then (compare m n)).isLE = true ↔ e < f ∨ e = f ∧ m ≤ n
  rcases Int.lt_trichotomy e f with hlt | rfl | hgt
  · rw [Int.compare_eq_lt.2 hlt]
    simp [hlt]
  · rw [Int.compare_eq_eq.2 rfl]
    simp [Nat.isLE_compare]
  · rw [Int.compare_eq_gt.2 hgt]
    exact iff_of_false Bool.false_ne_true (by omega)

/-- The unit interval: what is within `0` and not below zero. -/
theorem unit_iff {x : Float} :
    0.0 ≤ x ∧ x ≤ 1.0 ↔ within 0 x ∧ Unsigned x.toModel.unpack := by
  have hzero : (0.0 : Float).toModel.unpack = .zero .positive := rfl
  have hone : (1.0 : Float).toModel.unpack = .finite .positive (2 ^ 52) (-52) (by decide) := rfl
  rw [le_iff_unpack, le_iff_unpack, hzero, hone]
  unfold within
  cases hu : x.toModel.unpack with
  | zero s => exact iff_of_true ⟨rfl, rfl⟩ ⟨trivial, trivial⟩
  | infinity s => cases s <;> exact iff_of_false (by decide) fun h => h.1
  | notANumber => exact iff_of_false (by decide) fun h => h.1
  | finite s m e hm =>
    obtain ⟨hm53, hlow, hnormal⟩ := canonical_unpack hu
    cases s with
    | negative => exact iff_of_false (fun h => Bool.noConfusion h.1) fun h => nomatch h.2
    | positive =>
      rw [positive_le_iff]
      constructor
      · rintro ⟨-, hle⟩
        refine ⟨⟨hlow, by omega, ?_⟩, rfl⟩
        rcases hle with hlt | ⟨rfl, hle⟩
        · calc m ≤ 2 ^ 53 := hm53.le
            _ ≤ 2 ^ (0 - e).toNat := Nat.pow_le_pow_right (by decide) (by omega)
        · exact hle
      · rintro ⟨⟨-, he, hle⟩, -⟩
        refine ⟨rfl, ?_⟩
        rcases hnormal with hlead | rfl
        · have hpow : 2 ^ 52 ≤ 2 ^ (0 - e).toNat := hlead.trans hle
          have hexponent := (Nat.pow_le_pow_iff_right (by decide)).1 hpow
          by_cases hlt : e < -52
          · exact Or.inl hlt
          · obtain rfl : e = -52 := by omega
            exact Or.inr ⟨rfl, hle⟩
        · exact Or.inl (by decide)

/-! ### The sign -/

theorem unsigned_roundWithAccuracy (m : Nat) (e : Int) (accuracy : Accuracy) :
    Unsigned (roundWithAccuracy .binary64 .positive m e accuracy) := by
  unfold roundWithAccuracy
  dsimp only
  split
  · trivial
  · rfl

theorem unsigned_normalize {z : Int} (hz : 0 ≤ z) (e : Int) (s : Sign) :
    Unsigned (UnpackedFloat.normalize .binary64 z e s) := by
  unfold UnpackedFloat.normalize
  split
  · rename_i hlt
    have := Int.compare_eq_lt.1 hlt
    omega
  · trivial
  · exact unsigned_roundWithAccuracy _ _ _

theorem unsigned_div {m : Nat} {e : Int} {pos : 0 < m} :
    ∀ {u : UnpackedFloat}, Unsigned u →
      Unsigned (UnpackedFloat.div .binary64 u (.finite .positive m e pos))
  | .zero _, _ => trivial
  | .infinity _, h => by
    subst h
    rfl
  | .notANumber, _ => trivial
  | .finite _ n f _, h => by
    subst h
    exact unsigned_roundWithAccuracy _ _ _

theorem unsigned_unpack_pack {k : Int} (hk : k ≤ 971) :
    ∀ {u : UnpackedFloat}, Within k u → Unsigned u →
      Unsigned (UnpackedFloat.unpack .binary64 (UnpackedFloat.pack .binary64 u))
  | .zero s, _, _ => by
    rw [unpack_pack_zero]
    trivial
  | .finite s m e hm, ⟨hlow, hsmall⟩, h => by
    rcases unpack_pack_finite s hm hlow (hsmall.1.trans hk) with
      hsame | hzero | ⟨m', hm', -, hleast⟩
    · rw [hsame]
      exact h
    · rw [hzero]
      trivial
    · rw [hleast]
      exact h

end Binary
end Arbor
