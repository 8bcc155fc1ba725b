/-
# Where tubes are undefined

The rings of a tube lie across its segment, and two lengths are divided by to
find out how: that of the segment, which is clipped (`Tube.reach`), and that of
the product of its direction with the side axis (`Tube.across`). The first one
is never zero.

The second one is zero if the side axis is parallel to the direction. The side
axis is chosen so that this is never the case for a direction of length one:
it is the upward axis only for a direction that is not close to upright. But a
segment shorter than the clip has a direction shorter than one, which may be
upright and pass for one that is not. So the tube of a segment that goes
straight up or down by less than nine tenths of a billionth has no defined
vertex, nor has that of a segment of no length (`Segment.Stub`). The tubes of
all other segments are those among the real numbers (`Tube.vertices_ofReal`).

Key definitions: `Segment.Stub`, `Segment.ofReal`, `Tube.reach`, `Tube.across`.
Key theorems: `Tube.reach_pos`, `Tube.norm_across_sq_gt`,
`Tube.norm_across_eq_zero_iff`, `Tube.vertices_ofReal`, `Tube.vertices_of_stub`,
`branchTubes_defined`.
-/
import Mathlib
import Arbor.Proofs.Mesh.Parts
import Arbor.Proofs.Point.Frame
import Arbor.Proofs.Scalar.Partial

namespace Arbor

/-- A segment without length, or one that goes straight up or down by less
than nine tenths of a billionth. -/
def Segment.Stub (s : Segment ℝ) : Prop :=
  s.finish.x = s.start.x ∧ s.finish.z = s.start.z ∧ |s.finish.y - s.start.y| < 9e-10

namespace Tube

section Divisors

variable {α : Type} [Scalar α]

/-- The length of a segment, clipped from below. -/
def reach (s : Segment α) : α := Scalar.greatest (s.finish - s.start).norm 1e-9

/-- A direction across a segment, of some length. -/
def across (s : Segment α) : Point α := (direction s).cross (sideAxis (direction s))

theorem direction_eq (s : Segment α) :
    direction s = (s.finish - s.start).dividedBy (reach s) := rfl

theorem axes_eq (s : Segment α) :
    axes s = ((across s).unit, (across s).unit.cross (direction s)) := rfl

theorem offsets_eq (radius : α) (turns : List (α × α)) (s : Segment α) :
    offsets radius turns s = turns.map fun turn =>
      ((axes s).1.scale turn.1 + (axes s).2.scale turn.2).scale radius := rfl

theorem vertices_eq (radius : α) (turns : List (α × α)) (s : Segment α) :
    vertices radius turns s = (offsets radius turns s).map (s.start + ·) ++
      (offsets radius turns s).map (s.finish + ·) := rfl

theorem exists_mem_vertices (radius : α) {sections : Nat} (h : 0 < sections) (s : Segment α) :
    ∃ p, p ∈ vertices radius (Ring.turns sections) s := by
  refine List.exists_mem_of_length_pos ?_
  rw [length_vertices]
  omega

end Divisors

/-! ### The two lengths -/

section Real

variable (s : Segment ℝ)

theorem reach_eq : reach s = max (s.finish - s.start).norm 1e-9 := Scalar.greatest_real _ _

theorem reach_pos : 0 < reach s := by
  rw [reach_eq]
  exact lt_max_of_lt_right (by norm_num)

theorem direction_x : (direction s).x = (s.finish.x - s.start.x) / reach s := rfl

theorem direction_y : (direction s).y = (s.finish.y - s.start.y) / reach s := rfl

theorem direction_z : (direction s).z = (s.finish.z - s.start.z) / reach s := rfl

/-- A direction that is not close to upright is multiplied with the upward
axis, and one that is with the first axis. -/
theorem across_eq : across s =
    if |(direction s).y| < 0.9 then ⟨-(direction s).z, 0, (direction s).x⟩
    else ⟨0, (direction s).z, -(direction s).y⟩ := by
  rw [across, sideAxis, Scalar.magnitude_real]
  split_ifs
  · simp only [Point.cross, Point.mk.injEq]
    norm_num
  · simp only [Point.cross, Point.mk.injEq]
    norm_num

/-- Whether an upright segment has a direction that is not close to upright
depends on its length only. -/
theorem low_iff_of_upright (hx : s.finish.x - s.start.x = 0) (hz : s.finish.z - s.start.z = 0) :
    |(direction s).y| < 0.9 ↔ |s.finish.y - s.start.y| < 9e-10 := by
  have hlength : (s.finish - s.start).norm = |s.finish.y - s.start.y| := Point.norm_upright hx hz
  have hreach : reach s = max |s.finish.y - s.start.y| 1e-9 := by rw [reach_eq, hlength]
  rw [direction_y, abs_div, abs_of_pos (reach_pos s), div_lt_iff₀ (reach_pos s), hreach]
  rcases le_total |s.finish.y - s.start.y| 1e-9 with hshort | hlong
  · rw [max_eq_right hshort]
    norm_num
  · rw [max_eq_left hlong]
    norm_num at hlong ⊢
    constructor
    · intro h
      linarith
    · intro h
      linarith

/-- The length of a segment as long as the clip is not clipped. -/
theorem direction_of_long (long : 1e-9 ≤ (s.finish - s.start).norm) :
    direction s = (s.finish - s.start).unit := by
  have hreach : reach s = (s.finish - s.start).norm := by rw [reach_eq, max_eq_left long]
  rw [direction_eq, hreach]
  rfl

theorem norm_pos_of_long (long : 1e-9 ≤ (s.finish - s.start).norm) :
    0 < (s.finish - s.start).norm := lt_of_lt_of_le (by norm_num) long

theorem dot_direction_of_long (long : 1e-9 ≤ (s.finish - s.start).norm) :
    (direction s).dot (direction s) = 1 := by
  rw [direction_of_long s long]
  exact Point.dot_unit_unit (norm_pos_of_long s long).ne'

/-- Across a segment as long as the clip there is a direction of some length
at least, on either side of the threshold. -/
theorem norm_across_sq_gt (long : 1e-9 ≤ (s.finish - s.start).norm) :
    0.19 < (across s).norm ^ 2 := by
  have hunit := dot_direction_of_long s long
  rw [Point.norm_sq, across_eq]
  rw [Point.dot] at hunit
  by_cases hlow : |(direction s).y| < 0.9
  · have hy : (direction s).y ^ 2 < 0.9 ^ 2 := sq_lt_sq' (by linarith [abs_lt.1 hlow]) (abs_lt.1 hlow).2
    rw [if_pos hlow, Point.dot]
    norm_num at hy ⊢
    linarith
  · have hy : 0.9 ^ 2 ≤ |(direction s).y| ^ 2 := pow_le_pow_left₀ (by norm_num) (not_lt.1 hlow) 2
    have hz := mul_self_nonneg (direction s).z
    rw [if_neg hlow, Point.dot]
    rw [sq_abs] at hy
    norm_num at hy ⊢
    linarith

/-- There is no direction across a segment exactly if it is a stub. -/
theorem norm_across_eq_zero_iff : (across s).norm = 0 ↔ s.Stub := by
  have hreach := (reach_pos s).ne'
  rw [across_eq, Segment.Stub, ← sub_eq_zero (a := s.finish.x), ← sub_eq_zero (a := s.finish.z)]
  by_cases hlow : |(direction s).y| < 0.9
  · rw [if_pos hlow, Point.norm_eq_zero_iff]
    simp only [neg_eq_zero, true_and, direction_x, direction_z, div_eq_zero_iff, hreach, or_false]
    constructor
    · rintro ⟨hz, hx⟩
      exact ⟨hx, hz, (low_iff_of_upright s hx hz).1 hlow⟩
    · rintro ⟨hx, hz, -⟩
      exact ⟨hz, hx⟩
  · rw [if_neg hlow, Point.norm_eq_zero_iff]
    constructor
    · rintro ⟨-, -, hy⟩
      rw [neg_eq_zero.1 hy] at hlow
      norm_num at hlow
    · rintro ⟨hx, hz, hy⟩
      exact absurd ((low_iff_of_upright s hx hz).2 hy) hlow

end Real
end Tube

/-! ### Tubes of partial real numbers -/

open PartialReal

/-- A segment between points with real coordinates. -/
def Segment.ofReal (s : Segment ℝ) : Segment PartialReal := ⟨s.start.ofReal, s.finish.ofReal⟩

theorem Ring.turns_ofReal (sections : Nat) :
    (turns sections : List (PartialReal × PartialReal)) =
      (turns sections : List (ℝ × ℝ)).map fun turn => (real turn.1, real turn.2) := by
  unfold turns
  rw [List.map_map]
  refine List.map_congr_left fun i hi => ?_
  have hsections : ((Int.ofNat sections : ℤ) : ℝ) ≠ 0 := by
    rw [List.mem_range] at hi
    exact Int.cast_ne_zero.2 (by rw [Int.ofNat_eq_natCast]; omega)
  have hangle : (2.0 * Scalar.pi * Scalar.ofNat i / Scalar.ofNat sections : PartialReal) =
      real (2.0 * Scalar.pi * Scalar.ofNat i / Scalar.ofNat sections) := real_div _ hsections
  simp only [hangle]
  rfl

namespace Tube

variable (s : Segment ℝ)

theorem reach_ofReal : reach s.ofReal = real (reach s) := by
  show Scalar.greatest (s.finish.ofReal - s.start.ofReal).norm (real 1e-9) = _
  rw [Point.ofReal_sub, Point.norm_ofReal, greatest_real]
  rfl

theorem direction_ofReal : direction s.ofReal = (direction s).ofReal := by
  rw [direction_eq, reach_ofReal]
  show (s.finish - s.start).ofReal.dividedBy (real (reach s)) = _
  rw [Point.dividedBy_ofReal _ (reach_pos s).ne']
  rfl

theorem sideAxis_ofReal (d : Point ℝ) : sideAxis d.ofReal = (sideAxis d).ofReal := by
  have hmagnitude : Scalar.magnitude d.ofReal.y = real (Scalar.magnitude d.y) := magnitude_real d.y
  have hbound : (0.9 : PartialReal) = real 0.9 := rfl
  rw [sideAxis, sideAxis, hmagnitude, hbound]
  by_cases hlow : Scalar.magnitude d.y < 0.9
  · rw [if_pos hlow, if_pos ((real_lt _ _).2 hlow)]
    rfl
  · rw [if_neg hlow, if_neg (mt (real_lt _ _).1 hlow)]
    rfl

theorem across_ofReal : across s.ofReal = (across s).ofReal := by
  rw [across, direction_ofReal, sideAxis_ofReal, Point.cross_ofReal]
  rfl

variable {s}

theorem axes_ofReal (long : ¬s.Stub) :
    axes s.ofReal = ((axes s).1.ofReal, (axes s).2.ofReal) := by
  have hacross : (across s).norm ≠ 0 := mt (norm_across_eq_zero_iff s).1 long
  rw [axes_eq, across_ofReal, direction_ofReal, Point.unit_ofReal _ hacross, Point.cross_ofReal]
  rfl

theorem axes_of_stub (stub : s.Stub) : axes s.ofReal = (Point.nowhere, Point.nowhere) := by
  have hacross : (across s).norm = 0 := (norm_across_eq_zero_iff s).2 stub
  rw [axes_eq, across_ofReal, Point.unit_ofReal_of_norm_eq_zero _ hacross, Point.nowhere_cross]

variable (radius : ℝ) (sections : Nat)

/-- The tube of a segment that is no stub is the one among the real numbers. -/
theorem vertices_ofReal (long : ¬s.Stub) :
    vertices (real radius) (Ring.turns sections) s.ofReal =
      (vertices radius (Ring.turns sections) s).map Point.ofReal := by
  have hoffsets : offsets (real radius) (Ring.turns sections) s.ofReal =
      (offsets radius (Ring.turns sections) s).map Point.ofReal := by
    rw [offsets_eq, offsets_eq, axes_ofReal long, Ring.turns_ofReal, List.map_map, List.map_map]
    rfl
  rw [vertices_eq, vertices_eq, hoffsets, List.map_append, List.map_map, List.map_map,
    List.map_map, List.map_map]
  rfl

/-- The tube of a stub has no defined vertex. -/
theorem vertices_of_stub (stub : s.Stub) :
    ∀ p ∈ vertices (real radius) (Ring.turns sections) s.ofReal, p = Point.nowhere := by
  have hoffsets : ∀ q ∈ offsets (real radius) (Ring.turns sections) s.ofReal,
      q = Point.nowhere := by
    rw [offsets_eq, axes_of_stub stub]
    intro q hq
    obtain ⟨turn, -, rfl⟩ := List.mem_map.1 hq
    simp only [Point.scale_nowhere, Point.nowhere_add]
  intro p hp
  rw [vertices_eq, List.mem_append, List.mem_map, List.mem_map] at hp
  rcases hp with ⟨q, hq, rfl⟩ | ⟨q, hq, rfl⟩
  · rw [hoffsets q hq, Point.add_nowhere]
  · rw [hoffsets q hq, Point.add_nowhere]

end Tube

/-! ### Meshes of tubes -/

theorem mem_tubes_ofReal {segments : List (Segment ℝ)} {radius : ℝ} {sections : Nat}
    {p : Point PartialReal} :
    p ∈ (tubes (real radius) sections (segments.map Segment.ofReal)).vertices ↔
      ∃ s ∈ segments, p ∈ Tube.vertices (real radius) (Ring.turns sections) s.ofReal := by
  simp only [tubes, List.mem_flatMap, List.mem_map, exists_exists_and_eq_and]

theorem exists_undefined_of_stub {segments : List (Segment ℝ)} {s : Segment ℝ} (hs : s ∈ segments)
    (stub : s.Stub) (radius : ℝ) {sections : Nat} (h : 0 < sections) :
    ∃ p ∈ (tubes (real radius) sections (segments.map Segment.ofReal)).vertices, ¬p.Defined := by
  obtain ⟨p, hp⟩ := Tube.exists_mem_vertices (real radius) h s.ofReal
  refine ⟨p, mem_tubes_ofReal.2 ⟨s, hs, hp⟩, ?_⟩
  rw [Tube.vertices_of_stub radius sections stub p hp]
  exact Point.not_defined_nowhere

/-- A radius that is greater than zero is a real number. -/
theorem exists_real_of_positive {radius : Quantity PartialReal} (positive : radius.positive = true) :
    ∃ value, radius.value? = some (real value) := by
  cases radius with
  | whole n => exact ⟨_, congrArg some (real_div _ (Nat.cast_ne_zero.2 one_ne_zero))⟩
  | scalar x =>
    cases x with
    | undefined => exact absurd (of_decide_eq_true positive) id
    | real x => exact ⟨x, rfl⟩

/-- **Where tubes are undefined.** For all segments, at least one, a radius
greater than zero and at least three sections: the clipped length of a segment
is not zero. The direction across it is of some length unless the segment is a
stub, and of a length bounded from below if the segment is as long as the clip.
So all vertices of the tubes are defined if no segment is a stub. The tubes are
made whenever the vertices of a ring are counted, as they always are by a counter
without limit, and each stub gives them a vertex that is not defined. -/
theorem branchTubes_defined {segments : List (Segment ℝ)} (some : segments ≠ [])
    {radius : Quantity PartialReal} (positive : radius.positive = true) {sections : Int}
    (many : 3 ≤ sections) :
    (∀ s ∈ segments, Tube.reach s ≠ 0 ∧ ((Tube.across s).norm ≠ 0 ↔ ¬s.Stub) ∧
      (1e-9 ≤ (s.finish - s.start).norm → 0.19 < (Tube.across s).norm ^ 2)) ∧
    (∀ counter mesh,
      branchTubes (segments.map Segment.ofReal) radius sections counter = .ok mesh →
      (∀ s ∈ segments, ¬s.Stub) → ∀ p ∈ mesh.vertices, p.Defined) ∧
    Ring.Counter.unlimited.Counts sections ∧
    ∀ counter : Ring.Counter, counter.Counts sections → ∃ mesh,
      branchTubes (segments.map Segment.ofReal) radius sections counter = .ok mesh ∧
        ∀ s ∈ segments, s.Stub → ∃ p ∈ mesh.vertices, ¬p.Defined := by
  obtain ⟨value, hvalue⟩ := exists_real_of_positive positive
  have hsome : segments.map Segment.ofReal ≠ [] := by simpa using some
  refine ⟨fun s _ => ⟨(Tube.reach_pos s).ne', not_congr (Tube.norm_across_eq_zero_iff s),
    Tube.norm_across_sq_gt s⟩, fun counter mesh hmesh long p hp => ?_,
    Ring.Counter.counts_unlimited sections, fun counter counted => ?_⟩
  · obtain ⟨count, rfl⟩ := eq_tubes_of_branchTubes hsome positive hvalue many hmesh
    obtain ⟨s, hs, hp⟩ := mem_tubes_ofReal.1 hp
    rw [Tube.vertices_ofReal value count (long s hs)] at hp
    obtain ⟨q, -, rfl⟩ := List.mem_map.1 hp
    exact q.defined_ofReal
  · obtain ⟨count, rfl⟩ := Int.eq_ofNat_of_zero_le (by omega : 0 ≤ sections)
    refine ⟨_, branchTubes_of_counts hsome positive hvalue (by omega) counted, ?_⟩
    exact fun s hs stub => exists_undefined_of_stub hs stub value (by omega)

/-- A flat segment shorter than the clip and an upright one of length one. -/
theorem branchTubes_defined_short :
    let segments : List (Segment ℝ) := [⟨Point.origin, ⟨5e-10, 0, 0⟩⟩, ⟨Point.origin, ⟨0, 1, 0⟩⟩]
    let radius : Quantity PartialReal := .scalar 0.02
    segments ≠ [] ∧ radius.positive = true ∧ (3 : Int) ≤ 6 ∧
      (∀ s ∈ segments, Tube.reach s ≠ 0 ∧ (Tube.across s).norm ≠ 0) ∧
      ∃ mesh, branchTubes (segments.map Segment.ofReal) radius 6 = .ok mesh ∧
        ∀ p ∈ mesh.vertices, p.Defined := by
  intro segments radius
  have positive : radius.positive = true := by
    refine decide_eq_true ?_
    show (0.0 : ℝ) < 0.02
    norm_num
  have long : ∀ s ∈ segments, ¬s.Stub := by
    intro s hs
    simp only [segments, List.mem_cons, List.not_mem_nil, or_false] at hs
    rcases hs with rfl | rfl
    · rintro ⟨hx, -, -⟩
      norm_num [Point.origin] at hx
    · rintro ⟨-, -, hy⟩
      norm_num [Point.origin] at hy
  have some : segments ≠ [] := List.cons_ne_nil _ _
  obtain ⟨hlengths, hdefined, -, hmade⟩ :=
    branchTubes_defined some positive (by decide : (3 : Int) ≤ 6)
  obtain ⟨mesh, hmesh, -⟩ := hmade .machine (Ring.Counter.counts_machine (by decide : 6 < 2 ^ 27))
  exact ⟨some, positive, by decide,
    fun s hs => ⟨(hlengths s hs).1, (hlengths s hs).2.1.2 (long s hs)⟩,
    mesh, hmesh, hdefined _ mesh hmesh long⟩

/-- There is no direction across a segment without length, and its tube has a
vertex that is not defined. -/
theorem branchTubes_undefined_point :
    let s : Segment ℝ := ⟨Point.origin, Point.origin⟩
    (Tube.across s).norm = 0 ∧
      ∃ mesh, branchTubes ([s].map Segment.ofReal) (.scalar 0.5) 3 = .ok mesh ∧
        ∃ p ∈ mesh.vertices, ¬p.Defined := by
  intro s
  have stub : s.Stub := by
    refine ⟨rfl, rfl, ?_⟩
    rw [sub_self, abs_zero]
    norm_num
  have positive : (Quantity.scalar (0.5 : PartialReal)).positive = true := by
    refine decide_eq_true ?_
    show (0.0 : ℝ) < 0.5
    norm_num
  refine ⟨(Tube.norm_across_eq_zero_iff s).2 stub, _,
    branchTubes_of_counts (List.cons_ne_nil _ _) positive rfl (by decide : 3 ≤ 3)
      (Ring.Counter.counts_machine (by decide)), ?_⟩
  exact exists_undefined_of_stub (List.mem_singleton_self s) stub 0.5 (by decide)

end Arbor
