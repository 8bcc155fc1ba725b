/-
# The vase has no hole

An edge without direction belongs to two faces of a vase, wherever it lies:
the wall has the uprights, the slanting edges and the two rims, and each cap
its rim and the spokes from its centre. Going round the rings, the sides of all
faces are these six kinds of edges, each twice (`Vase.sides_faces`), and no two
of the edges are the same (`Vase.nodup_edges`). So a vase of `n` sections has
`6 * n` edges, and with its `2 * n + 2` vertices and `4 * n` faces it is a
sphere by the count of Euler.

Over the real numbers the rings lie round the vertical axis, at the radii and
the heights that the measures say.

Key definitions: `undirected`, `Vase.edges`.
Key theorems: `countP_of_twice`, `card_of_twice`, `Vase.nodup_edges`,
`Vase.sides_faces`, `Vase.closed_surface`.
-/
import Arbor.Proofs.Mesh.Counting
import Arbor.Proofs.Mesh.Winding

namespace Arbor

/-! ### Every edge twice -/

/-- The edges of faces, without their directions. -/
def undirected (faces : List (Face Nat)) : Finset (Sym2 Nat) :=
  (faces.flatMap Face.sides).toFinset

section Twice

variable {faces : List (Face Nat)} {edges : List (Sym2 Nat)}
  (twice : ((faces.flatMap Face.sides : List (Sym2 Nat)) : Multiset (Sym2 Nat)) =
    2 • (edges : Multiset (Sym2 Nat))) (nodup : edges.Nodup)

include twice

theorem undirected_of_twice : undirected faces = edges.toFinset := by
  have hfinset := congrArg Multiset.toFinset twice
  rw [Multiset.toFinset_nsmul _ 2 two_ne_zero] at hfinset
  exact hfinset

include nodup

/-- If the sides of all faces are different edges, each twice, every edge belongs
to two faces. -/
theorem countP_of_twice (distinct : ∀ face ∈ faces, face.sides.Nodup) :
    ∀ e ∈ undirected faces, faces.countP (fun face => e ∈ face.sides) = 2 := by
  intro e he
  rw [undirected_of_twice twice, List.mem_toFinset] at he
  exact countP_of_times distinct (Multiset.coe_nodup.2 nodup) twice (Multiset.mem_coe.2 he)

theorem card_of_twice : (undirected faces).card = edges.length := by
  rw [undirected_of_twice twice, List.toFinset_card_of_nodup nodup]

end Twice

namespace Vase

variable {sections : Nat}

/-! ### The edges of a vase -/

/-- The edges of a vase next to vertex `i` of its rings: the upright one, the
slanting one, those of the lower and of the upper rim and the two spokes. -/
def edgesAt (sections i : Nat) : List (Sym2 Nat) :=
  [s(i, sections + i), s(sections + i, Ring.next sections i), s(i, Ring.next sections i),
    s(sections + i, sections + Ring.next sections i), s(2 * sections, i),
    s(2 * sections + 1, sections + i)]

/-- The edges of a vase. -/
def edges (sections : Nat) : List (Sym2 Nat) := (List.range sections).flatMap (edgesAt sections)

theorem length_edges (sections : Nat) : (edges sections).length = 6 * sections := by
  have hsix : ∀ i ∈ List.range sections, (edgesAt sections i).length = 6 := fun _ _ => rfl
  rw [edges, length_flatMap_const hsix, List.length_range, Nat.mul_comm]

theorem nodup_edges (h : 3 ≤ sections) : (edges sections).Nodup := by
  refine List.nodup_flatMap.2 ⟨fun i hi => ?_, ?_⟩
  · have hi := List.mem_range.1 hi
    have apart := Ring.gaps_apart h hi hi
    simp only [edgesAt, List.nodup_cons, List.mem_cons, List.not_mem_nil, or_false, Sym2.eq_iff,
      not_false_eq_true, List.nodup_nil, and_true]
    omega
  · refine List.pairwise_lt_range.imp_of_mem fun {i j} hi hj hij e hei hej => ?_
    have apart := Ring.gaps_apart h (List.mem_range.1 hi) (List.mem_range.1 hj)
    have hi := List.mem_range.1 hi
    have hj := List.mem_range.1 hj
    simp only [edgesAt, List.mem_cons, List.not_mem_nil, or_false] at hei hej
    rcases hei with rfl | rfl | rfl | rfl | rfl | rfl
    all_goals
      simp only [Sym2.eq_iff] at hej
      omega

theorem coe_edges (sections : Nat) : (edges sections : Multiset (Sym2 Nat)) =
    Ring.round sections (fun i => s(i, sections + i)) +
    (Ring.round sections (fun i => s(sections + i, Ring.next sections i)) +
    (Ring.round sections (fun i => s(i, Ring.next sections i)) +
    (Ring.round sections (fun i => s(sections + i, sections + Ring.next sections i)) +
    (Ring.round sections (fun i => s(2 * sections, i)) +
    Ring.round sections (fun i => s(2 * sections + 1, sections + i)))))) := by
  rw [edges, ← Multiset.coe_bind]
  show (Multiset.range sections).bind (fun i => s(i, sections + i) ::ₘ
    s(sections + i, Ring.next sections i) ::ₘ s(i, Ring.next sections i) ::ₘ
    s(sections + i, sections + Ring.next sections i) ::ₘ s(2 * sections, i) ::ₘ
    s(2 * sections + 1, sections + i) ::ₘ 0) = _
  simp only [Multiset.bind_cons, Multiset.bind_zero, add_zero]
  rfl

/-- The sides of all faces of a vase are its edges, each twice: an upright or a
spoke belongs to faces next to each other, a slanting edge to the two faces of
a gap, and an edge of a rim to the wall and to a cap. -/
theorem sides_faces (sections : Nat) :
    (((faces sections).flatMap Face.sides : List (Sym2 Nat)) : Multiset (Sym2 Nat)) =
      2 • (edges sections : Multiset (Sym2 Nat)) := by
  have hslant : Ring.round sections
      (fun i => s((Ring.upper sections i).a, (Ring.upper sections i).b)) =
        Ring.round sections fun i => s(sections + i, Ring.next sections i) :=
    Ring.round_swap _ _
  have hupright : Ring.round sections
      (fun i => s((Ring.upper sections i).c, (Ring.upper sections i).a)) =
        Ring.round sections fun i => s(i, sections + i) :=
    (Ring.round_swap _ _).trans (Ring.round_next fun i => s(i, sections + i))
  have hrim : Ring.round sections
      (fun i => s((Ring.lower sections i).c, (Ring.lower sections i).a)) =
        Ring.round sections fun i => s(i, Ring.next sections i) :=
    Ring.round_swap _ _
  have hfloor : Ring.round sections
      (fun i => s((bottomFace sections i).b, (bottomFace sections i).c)) =
        Ring.round sections fun i => s(i, Ring.next sections i) :=
    Ring.round_swap _ _
  have hbefore : Ring.round sections
      (fun i => s((bottomFace sections i).a, (bottomFace sections i).b)) =
        Ring.round sections fun i => s(2 * sections, i) :=
    Ring.round_next fun i => s(2 * sections, i)
  have hspoke : Ring.round sections
      (fun i => s((bottomFace sections i).c, (bottomFace sections i).a)) =
        Ring.round sections fun i => s(2 * sections, i) :=
    Ring.round_swap _ _
  have hafter : Ring.round sections
      (fun i => s((topFace sections i).c, (topFace sections i).a)) =
        Ring.round sections fun i => s(2 * sections + 1, sections + i) :=
    (Ring.round_swap _ _).trans (Ring.round_next fun i => s(2 * sections + 1, sections + i))
  rw [faces, Ring.wall, List.flatMap_append, List.flatMap_append, List.flatMap_append,
    ← Multiset.coe_add, ← Multiset.coe_add, ← Multiset.coe_add, Ring.sides_family,
    Ring.sides_family, Ring.sides_family, Ring.sides_family, coe_edges, hslant, hupright, hrim,
    hfloor, hbefore, hspoke, hafter]
  simp only [Ring.lower, Ring.upper, topFace]
  abel

/-- Every vertex of a vase is a corner of some face. -/
theorem exists_corner (h : 0 < sections) {v : Nat} (hv : v < 2 * sections + 2) :
    ∃ face ∈ faces sections, v ∈ face.corners := by
  have hfaces := faces_eq_wall_append_caps sections
  have hwall : ∀ i < sections, Ring.lower sections i ∈ faces sections := fun i hi => by
    rw [hfaces]
    refine List.mem_append_left _ (List.mem_append_left _ ?_)
    exact List.mem_map_of_mem (List.mem_range.2 hi)
  have hcap : ∀ face, face = bottomFace sections 0 ∨ face = topFace sections 0 →
      face ∈ faces sections := fun face hface => by
    rw [hfaces]
    exact List.mem_append_right _ (mem_caps.2 ⟨0, h, hface⟩)
  rcases lt_or_ge v sections with hlow | hlow
  · exact ⟨_, hwall v hlow, List.mem_cons_self⟩
  rcases lt_or_ge v (2 * sections) with hhigh | hhigh
  · refine ⟨_, hwall (v - sections) (by omega), ?_⟩
    simp only [Face.corners, Ring.lower, List.mem_cons]
    omega
  rcases hhigh.eq_or_lt with rfl | hrim
  · exact ⟨_, hcap _ (Or.inl rfl), List.mem_cons_self⟩
  · obtain rfl : v = 2 * sections + 1 := by omega
    exact ⟨_, hcap _ (Or.inr rfl), List.mem_cons_self⟩

/-! ### The rings of a vase -/

/-- The distance from the vertical axis of a vertex on a ring round it. -/
theorem distance_onRing {radius : ℝ} (h : 0 ≤ radius) (sections : Nat) (height : ℝ) (i : Nat) :
    √((onRing sections radius height i).x ^ 2 + (onRing sections radius height i).z ^ 2) =
      radius := by
  have hsq : (onRing sections radius height i).x ^ 2 + (onRing sections radius height i).z ^ 2 =
      radius ^ 2 := by
    simp only [onRing]
    linear_combination radius ^ 2 * Real.cos_sq_add_sin_sq (Ring.angle sections i)
  rw [hsq, Real.sqrt_sq h]

/-- **The vase is a closed surface.** A vase with good measures and at least
three sections is made whenever its vertices are counted, and by a counter without
limit for every number of sections. All its vertices are used, every face has three different corners, every edge belongs
to exactly two faces, and vertices less edges plus faces are two. Over the real
numbers the vertices of its two rings are at the radii from the vertical axis
and at half the height below and above the centre. -/
theorem closed_surface (many : 3 ≤ sections) :
    (∀ {α : Type} [Scalar α] {v : Vase α} {profile : Profile α}, v.Good profile →
      let solid := profile.surface sections
      vase v (Int.ofNat sections) .unlimited = .ok (solid.painted Colour.vase) ∧
      (∀ counter mesh, vase v (Int.ofNat sections) counter = .ok mesh ↔
        counter.Counts (Int.ofNat sections) ∧ mesh = solid.painted Colour.vase) ∧
      solid.vertices.length = 2 * sections + 2 ∧
      solid.faces.length = 4 * sections ∧
      (∀ face ∈ solid.faces, face.Proper 0 (2 * sections + 2)) ∧
      (∀ i < 2 * sections + 2, ∃ face ∈ solid.faces, i ∈ face.corners) ∧
      (∀ e ∈ undirected solid.faces, solid.faces.countP (fun face => e ∈ face.sides) = 2) ∧
      (undirected solid.faces).card = 6 * sections ∧
      (solid.vertices.length : ℤ) - (undirected solid.faces).card + solid.faces.length = 2) ∧
    ∀ v : Vase ℝ, 0 < v.topRadius.real → 0 < v.bottomRadius.real → 0 < v.height.real →
      v.Good v.rings ∧ ∀ i < sections, ∃ p q,
        (v.rings.surface sections).vertices[i]? = some p ∧
        (v.rings.surface sections).vertices[sections + i]? = some q ∧
        √(p.x ^ 2 + p.z ^ 2) = v.bottomRadius.real ∧
        p.y = v.center.real - v.height.real / 2 ∧
        √(q.x ^ 2 + q.z ^ 2) = v.topRadius.real ∧
        q.y = v.center.real + v.height.real / 2 := by
  have hproper := proper_faces (by omega : 2 ≤ sections)
  have hnodup := nodup_edges many
  have htwice := sides_faces sections
  have hcard : (undirected (faces sections)).card = 6 * sections :=
    (card_of_twice htwice hnodup).trans (length_edges sections)
  refine ⟨fun {α} _ {v} {profile} good => ?_, fun v top bottom height => ?_⟩
  · have hvertices : (profile.surface sections).vertices.length = 2 * sections + 2 :=
      (Mesh.madeOf_vase profile (by omega : 2 ≤ sections) Colour.vase).vertices
    have hfaces : (profile.surface sections).faces.length = 4 * sections := length_faces sections
    have hmade := good.made_iff many
    refine ⟨(hmade _ _).2 ⟨Ring.Counter.counts_unlimited _, rfl⟩, hmade, hvertices, hfaces, hproper,
      fun i hi => exists_corner (by omega) hi,
      countP_of_twice htwice hnodup fun face hface => (hproper face hface).nodup_sides, hcard, ?_⟩
    have hcard' : (undirected (profile.surface sections).faces).card = 6 * sections := hcard
    rw [hvertices, hfaces, hcard']
    push_cast
    ring
  · refine ⟨good_rings top bottom height, fun i hi => ⟨_, _, v.rings.vertex_below hi,
      v.rings.vertex_above hi, ?_, rfl, ?_, rfl⟩⟩
    · exact distance_onRing bottom.le sections _ i
    · exact distance_onRing top.le sections _ i

/-- The vase under a tree. -/
theorem closed_surface_default :
    3 ≤ 32 ∧ (default : Vase Float).Good Profile.default ∧
    (∃ mesh : Mesh Float, vase default 32 = .ok mesh ∧ mesh.vertices.length = 66 ∧
      (undirected (mesh.faces.map Prod.fst)).card = 192) ∧
    ∃ p, ((default : Vase ℝ).rings.surface 32).vertices[0]? = some p ∧
      √(p.x ^ 2 + p.z ^ 2) = 1.2 := by
  have good : (default : Vase Float).Good Profile.default :=
    ⟨by decide, by decide, by decide, profile?_default⟩
  obtain ⟨htop, hbottom, hheight, -⟩ := measures_default
  obtain ⟨hclosed, hround⟩ := closed_surface (by decide : 3 ≤ 32)
  obtain ⟨-, hmade, hvertices, -, -, -, -, hcard, -⟩ := hclosed good
  obtain ⟨-, hrings⟩ := hround default htop hbottom hheight
  obtain ⟨p, -, hp, -, hdistance, -⟩ := hrings 0 (by decide)
  have hcounts := Ring.Counter.counts_machine (by decide : 32 < 2 ^ 27)
  refine ⟨by decide, good, ⟨_, (hmade _ _).2 ⟨hcounts, rfl⟩, hvertices, ?_⟩, p, hp, hdistance⟩
  rw [Surface.faces_painted]
  exact hcard

end Vase
end Arbor
