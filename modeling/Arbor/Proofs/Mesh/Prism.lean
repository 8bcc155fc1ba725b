/-
# The tube of a segment is a prism

A segment as long as the clip has a direction of length one, and on either side
of the threshold for the side axis the two directions across it make a frame
with it, always of the same hand (`Tube.frame`). Each ring is spread evenly on
the circle that they span: a vertex and the next one have the same product and
the same cross product all round (`Tube.around_offsets`), from the last vertex
to the first one too.

The normal of a face of the wall is at right angles to the segment, and how it
shows away from a point of the axis is the cross product of two neighbours on
a ring along the segment (`Point.facing_lower`, `Point.facing_upper`); so the
faces show outwards.

Key definitions: `Ring.Around`, `Tube.offset`.
Key theorems: `Tube.frame`, `Tube.around_offsets`, `Tube.vertices_real`,
`Point.facing_lower`, `Point.facing_upper`, `tubes_regular`.
-/
import Mathlib
import Arbor.Proofs.Mesh.Repeated
import Arbor.Proofs.Mesh.Tubes
import Arbor.Proofs.Mesh.Winding

namespace Arbor

/-! ### Rings round a centre -/

/-- Vertices spread evenly on a circle about a centre, at right angles to a way:
each is the radius away, and the next one is one part of a full turn on,
against the way. -/
structure Ring.Around (centre way : Point ℝ) (radius : ℝ) (ring : List (Point ℝ)) : Prop where
  distance : ∀ p ∈ ring, (p - centre).norm = radius
  across : ∀ p ∈ ring, (p - centre).dot way = 0
  angle : ∀ i p q, ring[i]? = some p → ring[Ring.next ring.length i]? = some q →
    (p - centre).angle (q - centre) = 2 * Real.pi / ring.length
  sense : ∀ i p q, ring[i]? = some p → ring[Ring.next ring.length i]? = some q →
    (p - centre).cross (q - centre) =
      way.unit.scale (-(radius ^ 2 * Real.sin (2 * Real.pi / ring.length)))

namespace Ring

variable {sections i : Nat}

/-- The cosine of the angle between a vertex and the next one, by their cosines
and sines. -/
theorem cosine_between (hi : i < sections) :
    Real.cos (angle sections i) * Real.cos (angle sections (next sections i)) +
      Real.sin (angle sections i) * Real.sin (angle sections (next sections i)) =
        Real.cos (gap sections) := by
  rw [cos_next hi, sin_next hi, Real.cos_add, Real.sin_add]
  linear_combination Real.cos (gap sections) * Real.cos_sq_add_sin_sq (angle sections i)

theorem gap_le_pi (h : 2 ≤ sections) : gap sections ≤ Real.pi := by
  have htwo : (2 : ℝ) ≤ sections := by exact_mod_cast h
  rw [gap, div_le_iff₀ (by linarith)]
  nlinarith [Real.pi_pos]

theorem gap_nonneg (sections : Nat) : 0 ≤ gap sections :=
  div_nonneg (by linarith [Real.pi_pos]) (Nat.cast_nonneg sections)

end Ring

namespace Tube

/-! ### The frame of a segment -/

section Long

variable {s : Segment ℝ} (long : 1e-9 ≤ (s.finish - s.start).norm)

include long

theorem norm_across_ne_zero : (across s).norm ≠ 0 := by
  intro hzero
  have hpos := norm_across_sq_gt s long
  rw [hzero] at hpos
  norm_num at hpos

/-- The two directions across a segment make a frame with the segment. -/
theorem frame : Point.Frame (s.finish - s.start).unit (axes s).1 (axes s).2 := by
  have hacross : (across s).dot (direction s) = 0 := by
    simp only [across, Point.dot, Point.cross]
    ring
  rw [← direction_of_long s long]
  refine Point.frame_of_unit (dot_direction_of_long s long)
    (Point.dot_unit_unit (norm_across_ne_zero long)) ?_
  show (across s).unit.dot (direction s) = 0
  rw [Point.unit_dot, hacross, zero_div]

end Long

/-! ### The rings of a tube -/

/-- How far vertex `i` of a ring is from its centre, as a direction. -/
noncomputable def offset (radius : ℝ) (sections : Nat) (s : Segment ℝ) (i : Nat) : Point ℝ :=
  Point.spread (axes s).1 (axes s).2 radius (Real.cos (Ring.angle sections i))
    (Real.sin (Ring.angle sections i))

theorem offsets_real (radius : ℝ) (sections : Nat) (s : Segment ℝ) :
    offsets radius (Ring.turns sections) s =
      (List.range sections).map (offset radius sections s) := by
  rw [offsets_eq, Ring.turns_real, List.map_map]
  rfl

theorem vertices_real (radius : ℝ) (sections : Nat) (s : Segment ℝ) :
    vertices radius (Ring.turns sections) s =
      (List.range sections).map (s.start + offset radius sections s ·) ++
        (List.range sections).map (s.finish + offset radius sections s ·) := by
  rw [vertices_eq, offsets_real, List.map_map, List.map_map]
  rfl

section Offsets

variable {s : Segment ℝ} (long : 1e-9 ≤ (s.finish - s.start).norm) {radius : ℝ}
  {sections i : Nat}

include long

theorem norm_offset (positive : 0 < radius) (i : Nat) :
    (offset radius sections s i).norm = radius :=
  (frame long).norm_spread radius _ _ positive.le (Real.cos_sq_add_sin_sq _)

theorem offset_dot_way (i : Nat) :
    (offset radius sections s i).dot (s.finish - s.start) = 0 := by
  have hunit : (offset radius sections s i).dot (s.finish - s.start).unit = 0 :=
    (frame long).dot_spread_axis radius _ _
  rw [Point.dot_comm, Point.unit_dot, div_eq_zero_iff] at hunit
  rw [Point.dot_comm]
  exact hunit.resolve_right (norm_pos_of_long s long).ne'

theorem offset_dot_next (hi : i < sections) :
    (offset radius sections s i).dot (offset radius sections s (Ring.next sections i)) =
      radius ^ 2 * Real.cos (Ring.gap sections) := by
  rw [offset, offset, (frame long).dot_spread, Ring.cosine_between hi]

theorem offset_cross_next (hi : i < sections) :
    (offset radius sections s i).cross (offset radius sections s (Ring.next sections i)) =
      (s.finish - s.start).unit.scale (-(radius ^ 2 * Real.sin (Ring.gap sections))) := by
  rw [offset, offset, (frame long).cross_spread, Ring.sine_between hi]

theorem offset_angle_next (positive : 0 < radius) (many : 2 ≤ sections) (hi : i < sections) :
    (offset radius sections s i).angle (offset radius sections s (Ring.next sections i)) =
      Ring.gap sections := by
  have hne : radius * radius ≠ 0 := (mul_pos positive positive).ne'
  rw [Point.angle, offset_dot_next long hi, norm_offset long positive, norm_offset long positive,
    sq, mul_div_cancel_left₀ _ hne]
  exact Real.arccos_cos (Ring.gap_nonneg sections) (Ring.gap_le_pi many)

/-- A ring of a tube is spread evenly round its centre. -/
theorem around_offsets (positive : 0 < radius) (many : 2 ≤ sections) (centre : Point ℝ) :
    Ring.Around centre (s.finish - s.start) radius
      ((List.range sections).map (centre + offset radius sections s ·)) := by
  have hlength : ((List.range sections).map (centre + offset radius sections s ·)).length =
      sections := by rw [List.length_map, List.length_range]
  have hat : ∀ {i : Nat} {p : Point ℝ},
      ((List.range sections).map (centre + offset radius sections s ·))[i]? = some p →
        i < sections ∧ p - centre = offset radius sections s i := by
    intro i p hp
    obtain ⟨j, hj, rfl⟩ := Option.map_eq_some_iff.1 ((List.getElem?_map ..).symm.trans hp)
    obtain ⟨hi, rfl⟩ := List.getElem?_eq_some_iff.1 hj
    rw [List.length_range] at hi
    rw [List.getElem_range]
    exact ⟨hi, Point.add_sub_self _ _⟩
  refine ⟨fun p hp => ?_, fun p hp => ?_, fun i p q hp hq => ?_, fun i p q hp hq => ?_⟩
  · obtain ⟨i, hi⟩ := List.mem_iff_getElem?.1 hp
    rw [(hat hi).2, norm_offset long positive]
  · obtain ⟨i, hi⟩ := List.mem_iff_getElem?.1 hp
    rw [(hat hi).2, offset_dot_way long]
  · rw [hlength] at hq ⊢
    rw [(hat hp).2, (hat hq).2, offset_angle_next long positive many (hat hp).1]
    rfl
  · rw [hlength] at hq ⊢
    rw [(hat hp).2, (hat hq).2, offset_cross_next long (hat hp).1]
    rfl

end Offsets

theorem vertex_start (radius : ℝ) (s : Segment ℝ) {sections i : Nat} (hi : i < sections) :
    (vertices radius (Ring.turns sections) s)[i]? =
      some (s.start + offset radius sections s i) := by
  rw [vertices_real, List.getElem?_append_left (by simpa using hi), List.getElem?_map,
    List.getElem?_range hi]
  rfl

theorem vertex_finish (radius : ℝ) (s : Segment ℝ) {sections i : Nat} (hi : i < sections) :
    (vertices radius (Ring.turns sections) s)[sections + i]? =
      some (s.finish + offset radius sections s i) := by
  have hlength : ((List.range sections).map (s.start + offset radius sections s ·)).length =
      sections := by rw [List.length_map, List.length_range]
  rw [vertices_real, List.getElem?_append_right (by omega), hlength, Nat.add_sub_cancel_left,
    List.getElem?_map, List.getElem?_range hi]
  rfl

end Tube

/-! ### Faces outwards -/

/-- A point of the line through the ends of a segment. -/
def Segment.along {α : Type} [Scalar α] (s : Segment α) (t : α) : Point α :=
  s.start + (s.finish - s.start).scale t

namespace Point

/-- What is next to the end of a way is next to its beginning, moved along it. -/
theorem add_eq_add_way (p q u : Point ℝ) : q + u = p + u + (q - p) := by
  show (⟨q.x + u.x, q.y + u.y, q.z + u.z⟩ : Point ℝ) =
    ⟨p.x + u.x + (q.x - p.x), p.y + u.y + (q.y - p.y), p.z + u.z + (q.z - p.z)⟩
  rw [mk.injEq]
  exact ⟨by ring, by ring, by ring⟩

variable (s : Segment ℝ) (t : ℝ) (u v : Point ℝ)

/-- How a lower triangle between two neighbours on the rings shows away from a
point of the axis. -/
theorem facing_lower : facing (s.along t) (s.start + u) (s.finish + u) (s.start + v) =
    -(u.cross v).dot (s.finish - s.start) := by
  simp only [facing_coordinates, Segment.along, dot, cross, scale, add_x, add_y, add_z, sub_x,
    sub_y, sub_z]
  ring

/-- How an upper triangle does: in the same way. -/
theorem facing_upper : facing (s.along t) (s.start + v) (s.finish + u) (s.finish + v) =
    -(u.cross v).dot (s.finish - s.start) := by
  simp only [facing_coordinates, Segment.along, dot, cross, scale, add_x, add_y, add_z, sub_x,
    sub_y, sub_z]
  ring

end Point

section Outward

variable {segments : List (Segment ℝ)} {k : Nat} {s : Segment ℝ} (hs : segments[k]? = some s)
  {radius : ℝ} {sections : Nat}

include hs

/-- The vertices of a tube among those of all tubes. -/
theorem getElem?_tubes {j : Nat} (hj : j < 2 * sections) :
    (tubes radius sections segments).vertices[2 * sections * k + j]? =
      (Tube.vertices radius (Ring.turns sections) s)[j]? := by
  rw [← getElem?_block hj, block_vertices_tubes hs]

variable (long : 1e-9 ≤ (s.finish - s.start).norm) (positive : 0 < radius) (many : 3 ≤ sections)

include long positive many

/-- The faces of a tube show away from its axis. -/
theorem outward_of_block {face : Face Nat}
    (hface : face ∈ (Ring.wall sections).map (Face.shift (2 * sections * k))) (t : ℝ) :
    (tubes radius sections segments).Outward (s.along t) face := by
  have hshows : ∀ i < sections, 0 < -((Tube.offset radius sections s i).cross
      (Tube.offset radius sections s (Ring.next sections i))).dot (s.finish - s.start) := by
    intro i hi
    rw [Tube.offset_cross_next long hi, Point.scale_dot, Point.unit_dot_self, neg_mul, neg_neg]
    exact mul_pos (mul_pos (pow_pos positive 2) (Ring.sin_gap_pos many))
      (Tube.norm_pos_of_long s long)
  have hstart : ∀ i < sections, (tubes radius sections segments).vertices[2 * sections * k + i]? =
      some (s.start + Tube.offset radius sections s i) := fun i hi => by
    rw [getElem?_tubes hs (by omega), Tube.vertex_start radius s hi]
  have hfinish : ∀ i < sections,
      (tubes radius sections segments).vertices[2 * sections * k + (sections + i)]? =
        some (s.finish + Tube.offset radius sections s i) := fun i hi => by
    rw [getElem?_tubes hs (by omega), Tube.vertex_finish radius s hi]
  obtain ⟨own, hown, rfl⟩ := List.mem_map.1 hface
  simp only [Ring.wall, List.mem_append, List.mem_map, List.mem_range] at hown
  rcases hown with ⟨i, hi, rfl⟩ | ⟨i, hi, rfl⟩
  · have hnext := Ring.next_lt (by omega : 0 < sections) i
    exact ⟨_, Surface.facing?_eq (hstart i hi) (hfinish i hi) (hstart _ hnext),
      (hshows i hi).trans_eq (Point.facing_lower s t _ _).symm⟩
  · have hnext := Ring.next_lt (by omega : 0 < sections) i
    exact ⟨_, Surface.facing?_eq (hstart _ hnext) (hfinish i hi) (hfinish _ hnext),
      (hshows i hi).trans_eq (Point.facing_upper s t _ _).symm⟩

end Outward

/-- **Tubes are regular prisms that show outwards.** For segments as long as the
clip, a radius greater than zero and at least three sections, tubes are made
whenever the vertices of a ring are counted, and by a counter without limit for
every number of sections. A mesh of them that has faces is one block of two rings
for each segment. Both rings lie across the segment, one
round its start and one round its finish; each is spread evenly at the radius
from its centre and turns against the segment, and the second one is the first
one moved along the segment. All faces of the block show away from every point
of the axis. -/
theorem tubes_regular {segments : List (Segment ℝ)}
    (long : ∀ s ∈ segments, 1e-9 ≤ (s.finish - s.start).norm) {radius : Quantity ℝ}
    (positive : 0 < radius.real) {sections : Nat} (many : 3 ≤ sections) :
    let surface := tubes radius.real sections segments
    (∀ counter mesh, branchTubes segments radius (Int.ofNat sections) counter = .ok mesh →
      mesh.faces ≠ [] → mesh = surface.painted Colour.branch) ∧
    branchTubes segments radius (Int.ofNat sections) .unlimited =
      .ok (surface.painted Colour.branch) ∧
    (∀ counter : Ring.Counter, (segments ≠ [] → counter.Counts (Int.ofNat sections)) →
      branchTubes segments radius (Int.ofNat sections) counter =
        .ok (surface.painted Colour.branch)) ∧
    surface.vertices.length = 2 * sections * segments.length ∧
    surface.faces.length = 2 * sections * segments.length ∧
    ∀ k s, segments[k]? = some s →
      let way := s.finish - s.start
      let tube := block (2 * sections) k surface.vertices
      tube.length = 2 * sections ∧
      Ring.Around s.start way radius.real (tube.take sections) ∧
      Ring.Around s.finish way radius.real (tube.drop sections) ∧
      tube.drop sections = (tube.take sections).map (· + way) ∧
      ∀ face ∈ block (2 * sections) k surface.faces, ∀ t, surface.Outward (s.along t) face := by
  have hpositive := Quantity.positive_iff_real.2 positive
  have hvalue := Quantity.value?_real radius
  refine ⟨fun counter mesh => eq_tubes_of_faces hpositive hvalue many,
    branchTubes_of_counts_or_nil hpositive hvalue many fun _ => Ring.Counter.counts_unlimited _,
    fun counter => branchTubes_of_counts_or_nil hpositive hvalue many,
    length_vertices_tubes _ sections segments, length_faces_tubes _ sections segments,
    fun k s hs => ?_⟩
  intro way tube
  have hlong := long s (List.mem_of_getElem? hs)
  have htube : tube = Tube.vertices radius.real (Ring.turns sections) s :=
    block_vertices_tubes hs radius.real sections
  have hlength : ((List.range sections).map
      (s.start + Tube.offset radius.real sections s ·)).length = sections := by
    rw [List.length_map, List.length_range]
  have hstart : tube.take sections =
      (List.range sections).map (s.start + Tube.offset radius.real sections s ·) := by
    rw [htube, Tube.vertices_real, List.take_left' hlength]
  have hfinish : tube.drop sections =
      (List.range sections).map (s.finish + Tube.offset radius.real sections s ·) := by
    rw [htube, Tube.vertices_real, List.drop_left' hlength]
  refine ⟨by rw [htube, Tube.length_vertices], ?_, ?_, ?_, fun face hface t => ?_⟩
  · rw [hstart]
    exact Tube.around_offsets hlong positive (by omega) s.start
  · rw [hfinish]
    exact Tube.around_offsets hlong positive (by omega) s.finish
  · rw [hstart, hfinish, List.map_map]
    exact List.map_congr_left fun i _ => Point.add_eq_add_way s.start s.finish _
  · rw [block_faces_tubes (List.getElem?_eq_some_iff.1 hs).1] at hface
    exact outward_of_block hs hlong positive many hface t

/-- An upright segment and a flat one, on either side of the threshold. -/
theorem tubes_regular_corner :
    let s : Segment ℝ := ⟨Point.origin, ⟨0, 1, 0⟩⟩
    let t : Segment ℝ := ⟨s.finish, ⟨2, 1, 0⟩⟩
    let radius : Quantity ℝ := .scalar 0.02
    let surface := tubes 0.02 6 [s, t]
    (∀ u ∈ [s, t], 1e-9 ≤ (u.finish - u.start).norm) ∧ 0 < radius.real ∧ 3 ≤ 6 ∧
      branchTubes [s, t] radius 6 = .ok (surface.painted Colour.branch) ∧
      Ring.Around s.finish (s.finish - s.start) 0.02 ((block 12 0 surface.vertices).drop 6) ∧
      Ring.Around t.finish (t.finish - t.start) 0.02 ((block 12 1 surface.vertices).drop 6) ∧
      ∀ x, surface.Outward (t.along x) ⟨12, 18, 13⟩ := by
  intro s t radius surface
  have long : ∀ u ∈ [s, t], 1e-9 ≤ (u.finish - u.start).norm := by
    intro u hu
    simp only [List.mem_cons, List.not_mem_nil, or_false] at hu
    refine (Real.le_sqrt' (by norm_num)).2 ?_
    rcases hu with rfl | rfl
    · norm_num [Point.dot, s, Point.origin]
    · norm_num [Point.dot, t, s]
  have positive : 0 < radius.real := by
    show (0 : ℝ) < 0.02
    norm_num
  obtain ⟨-, -, hmade, -, -, htubes⟩ := tubes_regular long positive (by decide : 3 ≤ 6)
  obtain ⟨-, -, hs, -, -⟩ := htubes 0 s rfl
  obtain ⟨-, -, ht, -, houtward⟩ := htubes 1 t rfl
  have hface : (⟨12, 18, 13⟩ : Face Nat) ∈ block 12 1 surface.faces := by
    have hblock : block 12 1 surface.faces = (Ring.wall 6).map (Face.shift 12) :=
      block_faces_tubes (by decide : 1 < [s, t].length) (0.02 : ℝ) 6
    rw [hblock]
    decide
  have hcounts := Ring.Counter.counts_machine (by decide : 6 < 2 ^ 27)
  exact ⟨long, positive, by decide, hmade _ fun _ => hcounts, hs, ht, houtward _ hface⟩

end Arbor
