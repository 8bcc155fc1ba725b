/-
# Which way the faces of a vase show

The normal of a triangle is the product of its first two sides, and it shows
away from a point if it shows the same way as the line from that point to the
triangle. The faces of a solid should show away from its middle.

The wall of a vase does, for every number of sections, since each vertex of a
ring is the one before it turned on by the same angle (`Ring.sine_between`),
round the end of the ring too. Both caps show inwards
(`Vase.facing?_bottomFace`, `Vase.facing?_topFace`), and each of their faces
clashes with one of the wall, so a vase is not consistent; it is with its caps
the other way round (`Vase.winding`).

Key definitions: `Point.facing`, `Surface.facing?`, `Surface.Outward`,
`Surface.Inward`, `Ring.angle`, `Ring.gap`.
Key theorems: `Surface.facing?_reversed`, `Ring.sine_between`,
`Vase.facing?_lower`, `Vase.facing?_upper`, `Vase.facing?_bottomFace`,
`Vase.facing?_topFace`, `Vase.winding`.
-/
import Mathlib
import Arbor.Proofs.Mesh.Edges
import Arbor.Proofs.Point.Norm

namespace Arbor

/-! ### Faces and points -/

/-- The product of the normal of a triangle with the way to it from a point:
greater than zero if the triangle shows away from that point. -/
def Point.facing {α : Type} [Scalar α] (middle a b c : Point α) : α :=
  ((b - a).cross (c - a)).dot (a - middle)

theorem Point.facing_coordinates {α : Type} [Scalar α] (middle a b c : Point α) :
    Point.facing middle a b c =
      ((b.y - a.y) * (c.z - a.z) - (b.z - a.z) * (c.y - a.y)) * (a.x - middle.x) +
      ((b.z - a.z) * (c.x - a.x) - (b.x - a.x) * (c.z - a.z)) * (a.y - middle.y) +
      ((b.x - a.x) * (c.y - a.y) - (b.y - a.y) * (c.x - a.x)) * (a.z - middle.z) := rfl

namespace Surface

/-- How a face of a surface shows away from a point, if its corners are
vertices. -/
def facing? {α : Type} [Scalar α] (s : Surface α) (middle : Point α) (face : Face Nat) :
    Option α := do
  let a ← s.vertices[face.a]?
  let b ← s.vertices[face.b]?
  let c ← s.vertices[face.c]?
  some (Point.facing middle a b c)

/-- The face shows away from the point. -/
def Outward (s : Surface ℝ) (middle : Point ℝ) (face : Face Nat) : Prop :=
  ∃ x, s.facing? middle face = some x ∧ 0 < x

/-- The face shows towards the point. -/
def Inward (s : Surface ℝ) (middle : Point ℝ) (face : Face Nat) : Prop :=
  ∃ x, s.facing? middle face = some x ∧ x < 0

theorem facing?_eq {α : Type} [Scalar α] {s : Surface α} {middle a b c : Point α} {face : Face Nat}
    (ha : s.vertices[face.a]? = some a) (hb : s.vertices[face.b]? = some b)
    (hc : s.vertices[face.c]? = some c) :
    s.facing? middle face = some (Point.facing middle a b c) := by
  unfold facing?
  rw [ha, hb, hc]
  rfl

/-- A triangle shows the other way if it is turned round. -/
theorem facing?_reversed (s : Surface ℝ) (middle : Point ℝ) (face : Face Nat) :
    s.facing? middle face.reversed = (s.facing? middle face).map (- ·) := by
  unfold facing?
  simp only [Face.reversed]
  cases s.vertices[face.a]? with
  | none => rfl
  | some a =>
    cases s.vertices[face.b]? with
    | none => cases s.vertices[face.c]? <;> rfl
    | some b =>
      cases s.vertices[face.c]? with
      | none => rfl
      | some c =>
        refine congrArg some ?_
        simp only [Point.facing_coordinates]
        ring

theorem Inward.not_outward {s : Surface ℝ} {middle : Point ℝ} {face : Face Nat}
    (h : s.Inward middle face) : ¬ s.Outward middle face := by
  obtain ⟨x, hx, hneg⟩ := h
  rintro ⟨y, hy, hpos⟩
  rw [hx] at hy
  obtain rfl : x = y := Option.some.inj hy
  exact hneg.not_gt hpos

theorem Inward.reversed {s : Surface ℝ} {middle : Point ℝ} {face : Face Nat}
    (h : s.Inward middle face) : s.Outward middle face.reversed := by
  obtain ⟨x, hx, hneg⟩ := h
  refine ⟨-x, ?_, neg_pos.2 hneg⟩
  rw [facing?_reversed, hx]
  rfl

end Surface

/-! ### Round a ring -/

namespace Ring

/-- The angle of vertex `i` of a ring. -/
noncomputable def angle (sections i : Nat) : ℝ := 2 * Real.pi * i / sections

/-- The angle between a vertex of a ring and the next one. -/
noncomputable def gap (sections : Nat) : ℝ := 2 * Real.pi / sections

variable {sections : Nat}

theorem sin_gap_pos (h : 3 ≤ sections) : 0 < Real.sin (gap sections) := by
  have hthree : (3 : ℝ) ≤ sections := by exact_mod_cast h
  have hpi := Real.pi_pos
  refine Real.sin_pos_of_pos_of_lt_pi (div_pos (by linarith) (by linarith)) ?_
  rw [gap, div_lt_iff₀ (by linarith)]
  nlinarith

/-- The next vertex is one gap further on, up to a full turn at the end. -/
theorem angle_next {i : Nat} (hi : i < sections) :
    angle sections i + gap sections = angle sections (next sections i) ∨
      angle sections i + gap sections = angle sections (next sections i) + 2 * Real.pi := by
  have hne : (sections : ℝ) ≠ 0 := Nat.cast_ne_zero.2 (by omega)
  have hadd : angle sections i + gap sections = 2 * Real.pi * ((i + 1 : ℕ) : ℝ) / sections := by
    rw [angle, gap]
    push_cast
    ring
  rcases next_cases hi with ⟨hlast, hnext⟩ | ⟨-, hnext⟩
  · refine Or.inr ?_
    rw [hadd, hlast, hnext, angle, mul_div_assoc, div_self hne]
    simp
  · refine Or.inl ?_
    rw [hadd, hnext]
    rfl

theorem cos_next {i : Nat} (hi : i < sections) :
    Real.cos (angle sections (next sections i)) = Real.cos (angle sections i + gap sections) := by
  rcases angle_next hi with hnext | hnext
  · rw [hnext]
  · rw [hnext, Real.cos_add_two_pi]

theorem sin_next {i : Nat} (hi : i < sections) :
    Real.sin (angle sections (next sections i)) = Real.sin (angle sections i + gap sections) := by
  rcases angle_next hi with hnext | hnext
  · rw [hnext]
  · rw [hnext, Real.sin_add_two_pi]

/-- The sine of the angle between a vertex and the next one, by their cosines
and sines. -/
theorem sine_between {i : Nat} (hi : i < sections) :
    Real.cos (angle sections i) * Real.sin (angle sections (next sections i)) -
      Real.sin (angle sections i) * Real.cos (angle sections (next sections i)) =
        Real.sin (gap sections) := by
  rw [cos_next hi, sin_next hi, Real.cos_add, Real.sin_add]
  linear_combination Real.sin (gap sections) * Real.cos_sq_add_sin_sq (angle sections i)

theorem turns_real (sections : Nat) :
    (turns sections : List (ℝ × ℝ)) = (List.range sections).map fun i =>
      (Real.cos (angle sections i), Real.sin (angle sections i)) := by
  unfold turns
  refine List.map_congr_left fun i _ => ?_
  have hangle : (2.0 * Real.pi * ((Int.ofNat i : ℤ) : ℝ) / ((Int.ofNat sections : ℤ) : ℝ) : ℝ) =
      angle sections i := by
    rw [angle]
    norm_num
  show (Real.cos (2.0 * Real.pi * ((Int.ofNat i : ℤ) : ℝ) / ((Int.ofNat sections : ℤ) : ℝ)),
    Real.sin (2.0 * Real.pi * ((Int.ofNat i : ℤ) : ℝ) / ((Int.ofNat sections : ℤ) : ℝ))) = _
  rw [hangle]

end Ring

/-! ### The vase -/

namespace Vase

/-- Vertex `i` of a ring round the axis. -/
noncomputable def onRing (sections : Nat) (radius height : ℝ) (i : Nat) : Point ℝ :=
  ⟨radius * Real.cos (Ring.angle sections i), height, radius * Real.sin (Ring.angle sections i)⟩

theorem ring_real (sections : Nat) (radius height : ℝ) :
    ring (Ring.turns sections) radius height =
      (List.range sections).map (onRing sections radius height) := by
  unfold ring
  rw [Ring.turns_real, List.map_map]
  rfl

namespace Profile

variable (v : Profile ℝ)

/-- The point of the axis halfway between the bottom and the top. -/
noncomputable def middle : Point ℝ := ⟨0, (v.floor + v.rim) / 2, 0⟩

theorem vertices_surface (sections : Nat) :
    (v.surface sections).vertices =
      (List.range sections).map (onRing sections v.bottomRadius v.floor) ++
        (List.range sections).map (onRing sections v.topRadius v.rim) ++
          [⟨0, v.floor, 0⟩, ⟨0, v.rim, 0⟩] := by
  have hzero : (0.0 : ℝ) = 0 := by norm_num
  show ring (Ring.turns sections) v.bottomRadius v.floor ++
    ring (Ring.turns sections) v.topRadius v.rim ++
      ([⟨0.0, v.floor, 0.0⟩, ⟨0.0, v.rim, 0.0⟩] : List (Point ℝ)) = _
  rw [ring_real, ring_real, hzero]

variable {sections i : Nat}

theorem vertex_below (hi : i < sections) :
    (v.surface sections).vertices[i]? = some (onRing sections v.bottomRadius v.floor i) := by
  rw [vertices_surface, List.append_assoc, List.getElem?_append_left (by simpa using hi)]
  simp [hi]

theorem vertex_above (hi : i < sections) :
    (v.surface sections).vertices[sections + i]? =
      some (onRing sections v.topRadius v.rim i) := by
  rw [vertices_surface, List.append_assoc, List.getElem?_append_right (by simp)]
  rw [List.getElem?_append_left (by simpa using hi)]
  simp [hi]

theorem vertex_floor : (v.surface sections).vertices[2 * sections]? = some ⟨0, v.floor, 0⟩ := by
  rw [vertices_surface, List.getElem?_append_right (by simp; omega)]
  simp [two_mul]

theorem vertex_rim : (v.surface sections).vertices[2 * sections + 1]? = some ⟨0, v.rim, 0⟩ := by
  rw [vertices_surface, List.getElem?_append_right (by simp; omega)]
  have hlast : 2 * sections + 1 - (sections + sections) = 1 := by omega
  simp [hlast]

end Profile

variable (v : Profile ℝ) {sections i : Nat}

/-- The lower triangles of the wall show outwards. -/
theorem facing?_lower (hi : i < sections) :
    (v.surface sections).facing? v.middle (Ring.lower sections i) =
      some ((v.rim - v.floor) * v.bottomRadius * ((v.bottomRadius + v.topRadius) / 2) *
        Real.sin (Ring.gap sections)) := by
  have hpos : 0 < sections := by omega
  rw [Surface.facing?_eq (v.vertex_below hi) (v.vertex_above hi)
    (v.vertex_below (Ring.next_lt hpos i)), ← Ring.sine_between hi]
  -- the two vertices of the gap come in by the sine between them only
  refine congrArg some ?_
  simp only [Point.facing_coordinates, Ring.lower, onRing, Profile.middle]
  ring

/-- The upper triangles of the wall show outwards. -/
theorem facing?_upper (hi : i < sections) :
    (v.surface sections).facing? v.middle (Ring.upper sections i) =
      some ((v.rim - v.floor) * v.topRadius * ((v.bottomRadius + v.topRadius) / 2) *
        Real.sin (Ring.gap sections)) := by
  have hpos : 0 < sections := by omega
  have hnext := Ring.next_lt hpos i
  rw [Surface.facing?_eq (v.vertex_below hnext) (v.vertex_above hi) (v.vertex_above hnext),
    ← Ring.sine_between hi]
  refine congrArg some ?_
  simp only [Point.facing_coordinates, Ring.upper, onRing, Profile.middle]
  ring

/-- The triangles of the bottom show inwards. -/
theorem facing?_bottomFace (hi : i < sections) :
    (v.surface sections).facing? v.middle (bottomFace sections i) =
      some (-((v.rim - v.floor) / 2 * v.bottomRadius ^ 2 * Real.sin (Ring.gap sections))) := by
  have hpos : 0 < sections := by omega
  rw [Surface.facing?_eq v.vertex_floor (v.vertex_below (Ring.next_lt hpos i)) (v.vertex_below hi),
    ← Ring.sine_between hi]
  refine congrArg some ?_
  simp only [Point.facing_coordinates, bottomFace, onRing, Profile.middle]
  ring

/-- The triangles of the top show inwards. -/
theorem facing?_topFace (hi : i < sections) :
    (v.surface sections).facing? v.middle (topFace sections i) =
      some (-((v.rim - v.floor) / 2 * v.topRadius ^ 2 * Real.sin (Ring.gap sections))) := by
  have hpos : 0 < sections := by omega
  rw [Surface.facing?_eq v.vertex_rim (v.vertex_above hi) (v.vertex_above (Ring.next_lt hpos i)),
    ← Ring.sine_between hi]
  refine congrArg some ?_
  simp only [Point.facing_coordinates, onRing, Profile.middle]
  ring

section Signs

variable {v} (top : 0 < v.topRadius) (bottom : 0 < v.bottomRadius) (height : v.floor < v.rim)
  (many : 3 ≤ sections)

include top bottom height many

/-- The wall shows outwards. -/
theorem outward_of_wall {face : Face Nat} (hface : face ∈ Ring.wall sections) :
    (v.surface sections).Outward v.middle face := by
  have hrise : 0 < v.rim - v.floor := sub_pos.2 height
  have hmean : 0 < (v.bottomRadius + v.topRadius) / 2 := half_pos (add_pos bottom top)
  have hsin := Ring.sin_gap_pos many
  simp only [Ring.wall, List.mem_append, List.mem_map, List.mem_range] at hface
  rcases hface with ⟨i, hi, rfl⟩ | ⟨i, hi, rfl⟩
  · exact ⟨_, facing?_lower v hi, mul_pos (mul_pos (mul_pos hrise bottom) hmean) hsin⟩
  · exact ⟨_, facing?_upper v hi, mul_pos (mul_pos (mul_pos hrise top) hmean) hsin⟩

/-- The caps show inwards. -/
theorem inward_of_cap {face : Face Nat} (hface : face ∈ caps sections) :
    (v.surface sections).Inward v.middle face := by
  have hhalf : 0 < (v.rim - v.floor) / 2 := half_pos (sub_pos.2 height)
  have hsin := Ring.sin_gap_pos many
  obtain ⟨i, hi, rfl | rfl⟩ := mem_caps.1 hface
  · exact ⟨_, facing?_bottomFace v hi,
      neg_neg_of_pos (mul_pos (mul_pos hhalf (pow_pos bottom 2)) hsin)⟩
  · exact ⟨_, facing?_topFace v hi,
      neg_neg_of_pos (mul_pos (mul_pos hhalf (pow_pos top 2)) hsin)⟩

end Signs

/-- The rings of a vase whose measures are real numbers. -/
noncomputable def rings (v : Vase ℝ) : Profile ℝ :=
  ⟨v.topRadius.real, v.bottomRadius.real, v.center.real - v.height.real / 2,
    v.center.real + v.height.real / 2⟩

theorem profile?_real (v : Vase ℝ) : v.profile? = some v.rings := by
  unfold profile?
  rw [Quantity.half?_real, Quantity.value?_real, Quantity.value?_real, Quantity.value?_real]
  rfl

theorem middle_rings (v : Vase ℝ) : v.rings.middle = ⟨0, v.center.real, 0⟩ := by
  unfold Profile.middle rings
  rw [Point.mk.injEq]
  refine ⟨rfl, ?_, rfl⟩
  ring

theorem floor_lt_rim {v : Vase ℝ} (height : 0 < v.height.real) :
    v.rings.floor < v.rings.rim := by
  show v.center.real - v.height.real / 2 < v.center.real + v.height.real / 2
  linarith

/-- A vase with real measures greater than zero is good. -/
theorem good_rings {v : Vase ℝ} (top : 0 < v.topRadius.real) (bottom : 0 < v.bottomRadius.real)
    (height : 0 < v.height.real) : v.Good v.rings where
  top := Quantity.positive_iff_real.2 top
  bottom := Quantity.positive_iff_real.2 bottom
  height := Quantity.positive_iff_real.2 height
  profile := profile?_real v

/-- A vase with real measures is made if its vertices are counted. -/
theorem vase_eq_ok_iff {v : Vase ℝ} (top : 0 < v.topRadius.real) (bottom : 0 < v.bottomRadius.real)
    (height : 0 < v.height.real) (many : 3 ≤ sections) (counter : Ring.Counter) (mesh : Mesh ℝ) :
    vase v (Int.ofNat sections) counter = .ok mesh ↔
      counter.Counts (Int.ofNat sections) ∧
        mesh = (v.rings.surface sections).painted Colour.vase :=
  (good_rings top bottom height).made_iff many counter mesh

theorem measures_default :
    0 < (default : Vase ℝ).topRadius.real ∧ 0 < (default : Vase ℝ).bottomRadius.real ∧
      0 < (default : Vase ℝ).height.real ∧ (default : Vase ℝ).center.real = -1 := by
  show (0 : ℝ) < 1.0 ∧ (0 : ℝ) < 1.2 ∧ (0 : ℝ) < 2.0 ∧ (-1.0 : ℝ) = -1
  norm_num

/-- **Which way a vase is wound.** A vase with good measures and at least three
sections is made whenever its vertices are counted, and by a counter without limit
for every number of sections; its faces are those of the wall and of the two caps. The wall shows away from the middle.
Both caps show towards it, and each of their faces runs along its rim in the
direction of the wall, so that it clashes with a face of the wall. With the
caps the other way round no two faces clash and all show away from the
middle. -/
theorem winding (v : Vase ℝ) (top : 0 < v.topRadius.real) (bottom : 0 < v.bottomRadius.real)
    (height : 0 < v.height.real) {sections : Nat} (many : 3 ≤ sections) :
    let solid := v.rings.surface sections
    let middle : Point ℝ := ⟨0, v.center.real, 0⟩
    vase v (Int.ofNat sections) .unlimited = .ok (solid.painted Colour.vase) ∧
    (∀ counter mesh, vase v (Int.ofNat sections) counter = .ok mesh ↔
      counter.Counts (Int.ofNat sections) ∧ mesh = solid.painted Colour.vase) ∧
    solid.faces = Ring.wall sections ++ caps sections ∧
    (∀ face ∈ Ring.wall sections, solid.Outward middle face) ∧
    (∀ face ∈ caps sections,
      solid.Inward middle face ∧ ∃ side ∈ Ring.wall sections, face.Clashes side) ∧
    Consistent (Ring.wall sections ++ (caps sections).map Face.reversed) ∧
    ∀ face ∈ (caps sections).map Face.reversed, solid.Outward middle face := by
  intro solid middle
  have hmiddle : v.rings.middle = middle := middle_rings v
  have hrise : v.rings.floor < v.rings.rim := floor_lt_rim height
  have hinward : ∀ face ∈ caps sections, solid.Inward middle face := fun face hface => by
    rw [← hmiddle]
    exact inward_of_cap top bottom hrise many hface
  have hmade := vase_eq_ok_iff top bottom height many
  refine ⟨(hmade _ _).2 ⟨Ring.Counter.counts_unlimited _, rfl⟩, hmade,
    faces_eq_wall_append_caps sections,
    fun face hface => ?_, fun face hface => ⟨hinward face hface, clashes_of_cap hface⟩,
    consistent_reversed many, fun face hface => ?_⟩
  · rw [← hmiddle]
    exact outward_of_wall top bottom hrise many hface
  · obtain ⟨cap, hcap, rfl⟩ := List.mem_map.1 hface
    exact (hinward cap hcap).reversed

/-- The vase under a tree, with three sections. -/
theorem winding_default :
    let solid := (default : Vase ℝ).rings.surface 3
    vase (default : Vase ℝ) 3 = .ok (solid.painted Colour.vase) ∧
    solid.Outward ⟨0, -1, 0⟩ ⟨0, 3, 1⟩ ∧ solid.Inward ⟨0, -1, 0⟩ ⟨6, 1, 0⟩ := by
  obtain ⟨htop, hbottom, hheight, hcenter⟩ := measures_default
  obtain ⟨-, hmade, -, hwall, hcaps, -, -⟩ :=
    winding (default : Vase ℝ) htop hbottom hheight (by decide : 3 ≤ 3)
  rw [hcenter] at hwall hcaps
  exact ⟨(hmade _ _).2 ⟨Ring.Counter.counts_machine (by decide), rfl⟩, hwall _ (by decide),
    (hcaps _ (by decide)).1⟩

/-- The vase under a tree, made with three sections, is not consistent, and not
all its faces show outwards. -/
theorem inconsistent_default :
    ∃ mesh : Mesh ℝ, vase default 3 = .ok mesh ∧
      ¬ Consistent (mesh.faces.map Prod.fst) ∧
      ∃ face ∈ mesh.faces.map Prod.fst,
        ¬ Surface.Outward ⟨mesh.vertices, mesh.faces.map Prod.fst⟩ ⟨0, -1, 0⟩ face := by
  obtain ⟨htop, hbottom, hheight, hcenter⟩ := measures_default
  have hmade := (vase_eq_ok_iff htop hbottom hheight (by decide : 3 ≤ 3) .machine _).2
    ⟨Ring.Counter.counts_machine (by decide), rfl⟩
  have hmiddle : (default : Vase ℝ).rings.middle = ⟨0, -1, 0⟩ := by rw [middle_rings, hcenter]
  have hcap : bottomFace 3 0 ∈ caps 3 := by decide
  refine ⟨_, hmade, ?_, bottomFace 3 0, ?_, ?_⟩
  · rw [Surface.faces_painted]
    exact not_consistent_faces (by decide)
  · rw [Surface.faces_painted]
    exact List.mem_append_right (Ring.wall 3) hcap
  · rw [Surface.faces_painted, ← hmiddle]
    exact (inward_of_cap htop hbottom (floor_lt_rim hheight) (by decide) hcap).not_outward

end Vase
end Arbor
