/-
# Drawing until a number fits

The twister gives a number below `n` by drawing numbers of as many bits until one
is below `n`. There is no bound to this: what is found is the last of a row of
draws, all others of which are too large (`Twister.firstBelow_eq_some_iff`), and
nothing is found only where every draw is too large, for ever
(`Twister.firstBelow_eq_none_iff`).

Key definitions: `Twister.skip`.
Key theorems: `Twister.firstBelow_of_lt`, `Twister.firstBelow_of_le`,
`Twister.firstBelow_skip`, `Twister.firstBelow_eq_some_iff`,
`Twister.firstBelow_eq_none_iff`, `Twister.below_of_first`.
-/
import Arbor.Chance.Twister

namespace Arbor
namespace Twister

/-- The state after a number of draws of `k` bits. -/
def skip (k : Nat) : Nat → Twister → Twister
  | 0, t => t
  | j + 1, t => skip k j (t.bits k).2

theorem skip_succ (k j : Nat) (t : Twister) : t.skip k (j + 1) = ((t.skip k j).bits k).2 := by
  induction j generalizing t with
  | zero => rfl
  | succ j ih => exact ih (t.bits k).2

variable {n k : Nat} {t : Twister}

theorem firstBelow_of_lt (h : (t.bits k).1 < n) :
    t.firstBelow n k = some (⟨(t.bits k).1, h⟩, (t.bits k).2) := by
  rw [firstBelow]
  exact dif_pos h

theorem firstBelow_of_le (h : n ≤ (t.bits k).1) :
    t.firstBelow n k = (t.bits k).2.firstBelow n k := by
  rw [firstBelow]
  exact dif_neg (Nat.not_lt.2 h)

/-- Draws that are too large are passed over. -/
theorem firstBelow_skip {j : Nat} (rejected : ∀ i < j, n ≤ ((t.skip k i).bits k).1) :
    t.firstBelow n k = (t.skip k j).firstBelow n k := by
  induction j generalizing t with
  | zero => rfl
  | succ j ih =>
    have hfirst : n ≤ (t.bits k).1 := rejected 0 (Nat.succ_pos j)
    rw [firstBelow_of_le hfirst]
    exact ih fun i hi => rejected (i + 1) (Nat.succ_lt_succ hi)

/-- **What is found is the first draw that is small enough.** -/
theorem firstBelow_eq_some_iff {r : Fin n} {left : Twister} :
    t.firstBelow n k = some (r, left) ↔
      ∃ j, (∀ i < j, n ≤ ((t.skip k i).bits k).1) ∧ (t.skip k j).bits k = (r.val, left) := by
  constructor
  · -- by induction on the approximations of the loop, none of which finds anything else
    refine firstBelow.partial_correctness n k (fun t found => ∃ j,
      (∀ i < j, n ≤ ((t.skip k i).bits k).1) ∧ (t.skip k j).bits k = (found.1.val, found.2)) ?_ t _
    intro loop ih t found hfound
    by_cases h : (t.bits k).1 < n
    · obtain rfl := Option.some.inj ((dif_pos h).symm.trans hfound)
      exact ⟨0, nofun, rfl⟩
    · obtain ⟨j, rejected, hlast⟩ := ih _ _ ((dif_neg h).symm.trans hfound)
      refine ⟨j + 1, fun i hi => ?_, hlast⟩
      cases i with
      | zero => exact Nat.not_lt.1 h
      | succ i => exact rejected i (Nat.lt_of_succ_lt_succ hi)
  · rintro ⟨j, rejected, hlast⟩
    have hfits : ((t.skip k j).bits k).1 < n := by
      rw [hlast]
      exact r.isLt
    rw [firstBelow_skip rejected, firstBelow_of_lt hfits]
    simp only [hlast]

/-- Nothing is found only where every draw is too large. -/
theorem firstBelow_eq_none_iff :
    t.firstBelow n k = none ↔ ∀ j, n ≤ ((t.skip k j).bits k).1 := by
  constructor
  · intro h j
    -- the draws before `j` are too large as well, so the search comes to this one
    induction j using Nat.strongRecOn with
    | ind j rejected =>
      refine Nat.not_lt.1 fun hfits => ?_
      rw [firstBelow_skip rejected, firstBelow_of_lt hfits] at h
      cases h
  · intro hlarge
    cases hfound : t.firstBelow n k with
    | none => rfl
    | some found =>
      obtain ⟨j, -, hlast⟩ := firstBelow_eq_some_iff.1 hfound
      have hj := hlarge j
      rw [hlast] at hj
      exact absurd found.1.isLt (Nat.not_lt.2 hj)

/-- The number that is given is the first draw that is small enough, and the
draws up to it are used up. -/
theorem below_of_first (pos : 0 < n) {j : Nat} {r : Fin n}
    (rejected : ∀ i < j, n ≤ ((t.skip (n.log2 + 1) i).bits (n.log2 + 1)).1)
    (h : ((t.skip (n.log2 + 1) j).bits (n.log2 + 1)).1 = r.val) :
    t.below n pos = (r, t.skip (n.log2 + 1) (j + 1)) := by
  have hlast : (t.skip (n.log2 + 1) j).bits (n.log2 + 1) =
      (r.val, t.skip (n.log2 + 1) (j + 1)) := Prod.ext h (skip_succ _ j t).symm
  rw [below, firstBelow_eq_some_iff.2 ⟨j, rejected, hlast⟩]
  rfl

end Twister
end Arbor
