/-
# Which points are drawn

The place `2 * k` among the end points is the start of segment `k`, and the place
`2 * k + 1` its end (`getElem?_endpoints_even`, `getElem?_endpoints_odd`). So each
draw of a place picks a segment and one of its two ends, and no draw can miss the
points: a generator that is asked for a number below theirs gives one
(`Generator.pick_lt`).

A negative number of flowers is refused before the points are looked at, with
nothing asked of the generator; an empty tree has no flowers, whatever their
number.

Key theorems: `getElem?_endpoints`, `Generator.pick_lt`, `decoration_drawn`.
-/
import Mathlib.Data.List.Basic
import Arbor.Proofs.Chance.Rejection
import Arbor.Proofs.Tree.Decoration

namespace Arbor

variable {γ α : Type}

/-! ### Places of the end points -/

theorem getElem?_endpoints_even (segments : List (Segment α)) (k : Nat) :
    (endpoints segments)[2 * k]? = segments[k]?.map Segment.start := by
  induction segments generalizing k with
  | nil => rfl
  | cons s rest ih =>
    cases k with
    | zero => rfl
    | succ k => exact ih k

theorem getElem?_endpoints_odd (segments : List (Segment α)) (k : Nat) :
    (endpoints segments)[2 * k + 1]? = segments[k]?.map Segment.finish := by
  induction segments generalizing k with
  | nil => rfl
  | cons s rest ih =>
    cases k with
    | zero => rfl
    | succ k => exact ih k

/-- An even place is the start of a segment and an odd one the end. -/
theorem getElem?_endpoints {segments : List (Segment α)} {r : Nat}
    (hr : r < 2 * segments.length) :
    (r % 2 = 0 → ∃ s, segments[r / 2]? = some s ∧ (endpoints segments)[r]? = some s.start) ∧
    (r % 2 = 1 →
      ∃ s, segments[(r - 1) / 2]? = some s ∧ (endpoints segments)[r]? = some s.finish) := by
  constructor
  · intro heven
    obtain ⟨k, rfl⟩ : ∃ k, r = 2 * k := ⟨r / 2, by omega⟩
    have hk : k < segments.length := by omega
    have hhalf : 2 * k / 2 = k := by omega
    rw [hhalf, getElem?_endpoints_even, List.getElem?_eq_getElem hk]
    exact ⟨_, rfl, rfl⟩
  · intro hodd
    obtain ⟨k, rfl⟩ : ∃ k, r = 2 * k + 1 := ⟨r / 2, by omega⟩
    have hk : k < segments.length := by omega
    have hhalf : (2 * k + 1 - 1) / 2 = k := by omega
    rw [hhalf, getElem?_endpoints_odd, List.getElem?_eq_getElem hk]
    exact ⟨_, rfl, rfl⟩

variable [Generator γ α]

theorem Generator.pick_lt {n : Nat} (h : 0 < n) (g : γ) : Generator.pick n g < n := by
  rw [← (Generator.below_eq h g).1]
  exact (Generator.below n h g).1.isLt

/-! ### Draws -/

/-- A recorder has one request on record for every flower. -/
theorem asked_flowers {segments : List (Segment α)} (some_segment : segments ≠ [])
    {count : Option Int} {wanted : Nat}
    (hcount : count.getD (Int.ofNat (flowerCount (2 * segments.length))) = wanted) (g : γ) :
    (flowers segments count (⟨g, []⟩ : Recorder γ)).2.asked =
      List.replicate wanted (.below (2 * segments.length)) := by
  obtain ⟨picked, hflowers, -⟩ :=
    flowers_wanted some_segment hcount (⟨g, []⟩ : Recorder γ)
  have hpos := List.length_pos_iff.2 some_segment
  have hzero : Request.below 0 ∉ List.replicate wanted (.below (2 * segments.length)) := by
    intro hmem
    have hsame := List.eq_of_mem_replicate hmem
    simp only [Request.below.injEq] at hsame
    omega
  rw [hflowers, Generator.asked_after _ _ hzero, List.nil_append]

/-- **Decoration is drawn from the segments.** The tips are the ends of the
segments, in order. A negative number of flowers is refused and leaves the
generator as it is, an empty tree gets no flowers, and any other tree gets as
many as are wanted: one for every two segments, rounded up, if no number is
given. For each of them the generator is asked once for a number below twice
that of the segments. It always gives such a number, and if that is `2 * k` the
flower is at the start of segment `k`, if it is `2 * k + 1` at its end. -/
theorem decoration_drawn (segments : List (Segment α)) (g : γ) :
    tips segments = segments.map Segment.finish ∧
    (∀ count : Int, count < 0 →
      flowers segments (some count) g = (.error .negativeCount, g)) ∧
    ∀ (count : Option Int) (wanted : Nat),
      count = some (wanted : Int) ∨ count = none ∧ wanted = (segments.length + 1) / 2 →
      (segments = [] → flowers segments count g = (.ok [], g)) ∧
      (segments ≠ [] →
        let place := Request.below (2 * segments.length)
        (flowers segments count (⟨g, []⟩ : Recorder γ)).2.asked = List.replicate wanted place ∧
        ∃ picked,
          flowers segments count g =
            (.ok picked, Generator.after (List.replicate wanted place) g) ∧
          picked.length = wanted ∧
          ∀ j < wanted,
            let r := Generator.pick (2 * segments.length)
              (Generator.after (List.replicate j place) g)
            r < 2 * segments.length ∧
            (r % 2 = 0 → ∃ s, segments[r / 2]? = some s ∧ picked[j]? = some s.start) ∧
            (r % 2 = 1 → ∃ s, segments[(r - 1) / 2]? = some s ∧ picked[j]? = some s.finish)) := by
  refine ⟨tips_eq_map segments, fun count h => flowers_negative h segments g, ?_⟩
  intro count wanted hwanted
  refine ⟨fun hnil => ?_, fun hne => ?_⟩
  · subst hnil
    refine flowers_nil (fun c hc => ?_) g
    obtain rfl | ⟨rfl, -⟩ := hwanted
    · obtain rfl := Option.some.inj hc
      exact Int.natCast_nonneg wanted
    · exact absurd hc (Option.not_mem_none c)
  · intro place
    have hcount : count.getD (Int.ofNat (flowerCount (2 * segments.length))) = wanted := by
      obtain rfl | ⟨rfl, rfl⟩ := hwanted
      · rfl
      · exact congrArg Int.ofNat (flowerCount_twice segments.length)
    obtain ⟨picked, hflowers, hlen, hblooms⟩ := flowers_wanted hne hcount g
    refine ⟨asked_flowers hne hcount g, picked, hflowers, hlen, fun j hj => ?_⟩
    intro r
    have hpos := List.length_pos_iff.2 hne
    have hr : r < 2 * segments.length := Generator.pick_lt (by omega) _
    have hpicked : picked[j]? = (endpoints segments)[r]? := by
      have h := hblooms j (hlen ▸ hj)
      rwa [length_endpoints] at h
    rw [hpicked]
    exact ⟨hr, getElem?_endpoints hr⟩

/-- Three flowers for two segments: the places drawn are the first, the second
and the last one. -/
theorem decoration_drawn_thrice :
    let segments : List (Segment Float) := [⟨⟨0, 0, 0⟩, ⟨0, 1, 0⟩⟩, ⟨⟨0, 1, 0⟩, ⟨0, 2, 0⟩⟩]
    let twister : Twister := ⟨#[100000000, 3123456789, 4223456789, 1000000000], 0⟩
    flowers segments (some (-1)) twister = (.error .negativeCount, twister) ∧
      ∃ left, flowers segments (some 3) twister =
        (.ok [⟨0, 0, 0⟩, ⟨0, 1, 0⟩, ⟨0, 2, 0⟩], left) := by
  intro segments twister
  obtain ⟨-, hnegative, hdrawn⟩ := decoration_drawn segments twister
  refine ⟨hnegative (-1) (by decide), ?_⟩
  obtain ⟨-, picked, hflowers, hlen, hplaces⟩ :=
    (hdrawn (some 3) 3 (Or.inl rfl)).2 (List.cons_ne_nil _ _)
  obtain ⟨p, q, r, rfl⟩ := List.length_eq_three.1 hlen
  let drawn (j : Nat) : Nat := Generator.pick (2 * segments.length)
    (Generator.after (List.replicate j (.below (2 * segments.length))) twister)
  have four : 0 < 4 := by decide
  have hone : twister.below 4 four = (0, twister.skip 3 1) :=
    Twister.below_of_first four (j := 0) nofun (by decide +kernel)
  have htwo : (twister.skip 3 1).below 4 four = (1, (twister.skip 3 1).skip 3 1) :=
    Twister.below_of_first four (j := 0) nofun (by decide +kernel)
  -- the third number is the second draw, as the first one is too large
  have hthree : ((twister.skip 3 1).skip 3 1).below 4 four =
      (3, ((twister.skip 3 1).skip 3 1).skip 3 2) :=
    Twister.below_of_first four (j := 1) (by decide +kernel) (by decide +kernel)
  have hfirst : drawn 0 = 0 := by
    show ((twister.below 4 four).1 : Nat) = 0
    rw [hone]
    rfl
  have hsecond : drawn 1 = 1 := by
    show (((twister.below 4 four).2.below 4 four).1 : Nat) = 1
    simp only [hone, htwo]
    rfl
  have hthird : drawn 2 = 3 := by
    show ((((twister.below 4 four).2.below 4 four).2.below 4 four).1 : Nat) = 3
    simp only [hone, htwo, hthree]
    rfl
  obtain ⟨s, hs, hp⟩ : ∃ s, segments[drawn 0 / 2]? = some s ∧ some p = some s.start :=
    (hplaces 0 (by decide)).2.1 (congrArg (· % 2) hfirst)
  obtain ⟨t, ht, hq⟩ : ∃ t, segments[(drawn 1 - 1) / 2]? = some t ∧ some q = some t.finish :=
    (hplaces 1 (by decide)).2.2 (congrArg (· % 2) hsecond)
  obtain ⟨u, hu, hr⟩ : ∃ u, segments[(drawn 2 - 1) / 2]? = some u ∧ some r = some u.finish :=
    (hplaces 2 (by decide)).2.2 (congrArg (· % 2) hthird)
  rw [hfirst] at hs
  rw [hsecond] at ht
  rw [hthird] at hu
  cases hs
  cases ht
  cases hu
  cases hp
  cases hq
  cases hr
  exact ⟨_, hflowers⟩

end Arbor
