/-
# Leaves and flowers come from the segments

The points at the odd places among the end points are the ends of the
segments, in order (`tips_eq_map`), so the leaves of the first segments are
the first leaves. Flowers are picked from the end points one after the other,
each with one request to the generator (`pickPoints_spec`), and where there is
a segment as many of them are found as are wanted (`flowers_wanted`). When their
number is not given there is one for every two segments, rounded up
(`flowers_spec`).

Key definitions: `Blooms`.
Key theorems: `tips_eq_map`, `pickPoints_spec`, `flowers_alike`,
`flowers_wanted`, `flowers_spec`, `Blooms.subset`.
-/
import Arbor.Proofs.Chance.Requests
import Arbor.Tree.Decoration

namespace Arbor

variable {γ α : Type}

/-! ### Leaves -/

theorem zipIdx_odd (segments : List (Segment α)) (k : Nat) :
    (((endpoints segments).zipIdx (2 * k)).filter fun place => place.2 % 2 == 1).map (·.1) =
      segments.map Segment.finish := by
  induction segments generalizing k with
  | nil => rfl
  | cons s rest ih =>
    have heven : (2 * k % 2 == 1) = false := by simp
    have hodd : ((2 * k + 1) % 2 == 1) = true := by
      have h : (2 * k + 1) % 2 = 1 := by omega
      rw [h]
      rfl
    have hnext : 2 * k + 1 + 1 = 2 * (k + 1) := by omega
    rw [endpoints_cons, List.zipIdx_cons, List.zipIdx_cons, hnext]
    simp only [List.filter_cons, heven, hodd, Bool.false_eq_true, if_false, if_true, List.map_cons,
      ih (k + 1)]

/-- The tips are the ends of the segments. -/
theorem tips_eq_map (segments : List (Segment α)) : tips segments = segments.map Segment.finish :=
  zipIdx_odd segments 0

theorem prefix_tips {first segments : List (Segment α)} (h : first <+: segments) :
    tips first <+: tips segments := by
  rw [tips_eq_map, tips_eq_map]
  exact h.map Segment.finish

/-! ### Flowers -/

variable [Generator γ α]

/-- Points picked from a list of `n` points with a generator: each is the one
at the place that the generator gives after the requests for those before
it. -/
def Blooms (points : List (Point α)) (g : γ) (picked : List (Point α)) : Prop :=
  ∀ j < picked.length, picked[j]? =
    points[Generator.pick points.length
      (Generator.after (List.replicate j (.below points.length)) g)]?

theorem Blooms.nil (points : List (Point α)) (g : γ) : Blooms points g [] :=
  fun _ hj => absurd hj (Nat.not_lt_zero _)

theorem Blooms.cons {points : List (Point α)} {g : γ} {picked : List (Point α)} {p : Point α}
    (hp : points[Generator.pick points.length g]? = some p)
    (h : Blooms points (Generator.serve g (.below points.length)) picked) :
    Blooms points g (p :: picked) := by
  intro j hj
  cases j with
  | zero => exact hp.symm
  | succ j =>
    rw [List.getElem?_cons_succ, List.replicate_succ, Generator.after_cons]
    exact h j (Nat.lt_of_succ_lt_succ hj)

/-- What is picked is among the points. -/
theorem Blooms.subset {points : List (Point α)} {g : γ} {picked : List (Point α)}
    (h : Blooms points g picked) : picked ⊆ points := by
  intro p hp
  obtain ⟨j, hj, rfl⟩ := List.getElem_of_mem hp
  have hpick := h j hj
  rw [List.getElem?_eq_getElem hj] at hpick
  exact List.mem_of_getElem? hpick.symm

/-- Points are picked with one request for each of them. -/
theorem pickPoints_spec (points : Array (Point α)) (some_point : 0 < points.size) :
    ∀ (count : Nat) (earlier : List (Point α)) (g : γ), ∃ picked,
      pickPoints points some_point count earlier g =
        (earlier.reverse ++ picked,
          Generator.after (List.replicate count (.below points.size)) g) ∧
      picked.length = count ∧ Blooms points.toList g picked
  | 0, earlier, g => ⟨[], by rw [List.append_nil]; rfl, rfl, Blooms.nil _ _⟩
  | count + 1, earlier, g => by
    obtain ⟨hplace, hserve⟩ := Generator.below_eq some_point g
    let place := (Generator.below points.size some_point g).1
    obtain ⟨picked, hpicked, hlen, hblooms⟩ := pickPoints_spec points some_point count
      (points[place] :: earlier) (Generator.serve g (.below points.size))
    refine ⟨points[place] :: picked, ?_, congrArg (· + 1) hlen, Blooms.cons ?_ hblooms⟩
    · rw [pickPoints]
      simp only [hserve]
      rw [hpicked, List.reverse_cons, List.append_assoc, List.singleton_append,
        List.replicate_succ, Generator.after_cons]
    · rw [Array.length_toList, ← hplace, Array.getElem?_toList]
      exact Array.getElem?_eq_getElem place.isLt

section Alike

variable {δ : Type} [Generator δ α] {φ : γ → δ} (alike : Generator.Alike φ)

include alike

theorem pickPoints_alike (points : Array (Point α)) (some_point : 0 < points.size) :
    ∀ (count : Nat) (earlier : List (Point α)) (g : γ),
      pickPoints points some_point count earlier (φ g) =
        ((pickPoints points some_point count earlier g).1,
          φ (pickPoints points some_point count earlier g).2)
  | 0, _, _ => rfl
  | count + 1, earlier, g => by
    rw [pickPoints, pickPoints, alike.below]
    exact pickPoints_alike points some_point count _ _

/-- Generators that answer alike give a tree the same flowers. -/
theorem flowers_alike (segments : List (Segment α)) (count : Option Int) (g : γ) :
    flowers segments count (φ g) =
      ((flowers segments count g).1, φ (flowers segments count g).2) := by
  simp only [flowers, pickPoints_alike alike]
  split
  · rfl
  · split <;> rfl

end Alike

/-- One flower for every four points is one for every two segments. -/
theorem flowerCount_twice (n : Nat) : flowerCount (2 * n) = (n + 1) / 2 := by
  unfold flowerCount
  omega

theorem flowers_negative {count : Int} (h : count < 0) (segments : List (Segment α)) (g : γ) :
    flowers segments (some count) g = (.error .negativeCount, g) := by
  unfold flowers
  exact if_pos h

theorem flowers_nil {count : Option Int} (h : ∀ c ∈ count, 0 ≤ c) (g : γ) :
    flowers ([] : List (Segment α)) count g = (.ok [], g) := by
  have hwanted : ¬count.getD (Int.ofNat (flowerCount 0)) < 0 := by
    cases count with
    | none => decide
    | some c => exact Int.not_lt.2 (h c rfl)
  unfold flowers
  exact if_neg hwanted

/-- Where there is a segment, as many flowers are found as are wanted, with one
request for each of them. -/
theorem flowers_wanted {segments : List (Segment α)} (some_segment : segments ≠ [])
    {count : Option Int} {wanted : Nat}
    (hcount : count.getD (Int.ofNat (flowerCount (2 * segments.length))) = wanted) (g : γ) :
    ∃ picked,
      flowers segments count g =
        (.ok picked, Generator.after (List.replicate wanted (.below (2 * segments.length))) g) ∧
      picked.length = wanted ∧ Blooms (endpoints segments) g picked := by
  have hsize : (endpoints segments).toArray.size = 2 * segments.length := by
    rw [List.size_toArray, length_endpoints]
  have hpos : 0 < (endpoints segments).toArray.size := by
    have hlength := List.length_pos_iff.2 some_segment
    omega
  have hwanted : ¬(wanted : Int) < 0 := Int.not_lt.2 (Int.natCast_nonneg _)
  obtain ⟨picked, hpicked, hlen, hblooms⟩ :=
    pickPoints_spec (endpoints segments).toArray hpos wanted [] g
  refine ⟨picked, ?_, hlen, hblooms⟩
  unfold flowers
  simp only [hsize, hcount, if_neg hwanted, Int.toNat_natCast]
  rw [dif_pos (hsize ▸ hpos), hpicked, hsize]
  rfl

/-- The flowers of a tree that gives no number of them: one for every two
segments, rounded up. -/
theorem flowers_spec (segments : List (Segment α)) (g : γ) : ∃ picked,
    flowers segments none g =
      (.ok picked, Generator.after
        (List.replicate ((segments.length + 1) / 2) (.below (2 * segments.length))) g) ∧
    picked.length = (segments.length + 1) / 2 ∧ Blooms (endpoints segments) g picked := by
  by_cases hnil : segments = []
  · subst hnil
    have hnone : ∀ c ∈ (none : Option Int), 0 ≤ c := fun c hc => absurd hc (Option.not_mem_none c)
    rw [List.length_nil]
    exact ⟨[], flowers_nil hnone g, rfl, Blooms.nil _ _⟩
  · refine flowers_wanted hnil ?_ g
    exact congrArg Int.ofNat (flowerCount_twice segments.length)

end Arbor
