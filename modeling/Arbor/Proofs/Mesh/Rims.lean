/-
# Tubes are open at their two rims

A face runs along its edges, and where two faces meet they run along the common
edge in opposite directions. An edge that no face runs back along is on the
boundary. The wall between two rings has its boundary on the two rims: it runs
backwards round the lower ring and forwards round the upper one
(`Ring.onBoundary_wall`), and all its other edges lie between two faces.

What is repeated for every segment has its own vertices, so nothing is shared
between tubes: two faces clash only if two of one wall do
(`consistent_repeated`), and an edge is on the boundary exactly if it is one of
its own wall (`onBoundary_repeated`).

Key definitions: `directed`, `OnBoundary`, `Tube.Rim`.
Key theorems: `eq_of_mul_add_eq`, `consistent_repeated`, `onBoundary_repeated`,
`Ring.onBoundary_wall`, `tubes_open`.
-/
import Arbor.Proofs.Mesh.Counting

namespace Arbor

/-! ### Boundaries -/

/-- The edges that faces run along, each in its direction. -/
def directed (faces : List (Face Nat)) : List (Nat × Nat) := faces.flatMap Face.edges

/-- Some face runs along the edge from `u` to `v`, and none runs back. -/
def OnBoundary (faces : List (Face Nat)) (u v : Nat) : Prop :=
  (u, v) ∈ directed faces ∧ (v, u) ∉ directed faces

theorem mem_directed {faces : List (Face Nat)} {u v : Nat} :
    (u, v) ∈ directed faces ↔ ∃ face ∈ faces, (u, v) ∈ face.edges := List.mem_flatMap

namespace Face

theorem mem_edges_shift {face : Face Nat} {n u v : Nat} :
    (u, v) ∈ (face.shift n).edges ↔ ∃ p q, (p, q) ∈ face.edges ∧ n + p = u ∧ n + q = v := by
  have hedges : (face.shift n).edges = face.edges.map fun e => (n + e.1, n + e.2) := rfl
  rw [hedges, List.mem_map]
  constructor
  · rintro ⟨⟨p, q⟩, he, heq⟩
    obtain ⟨hu, hv⟩ := Prod.mk.inj heq
    exact ⟨p, q, he, hu, hv⟩
  · rintro ⟨p, q, he, rfl, rfl⟩
    exact ⟨(p, q), he, rfl⟩

theorem Proper.lt_of_mem_edges {face : Face Nat} {count : Nat} (h : face.Proper 0 count)
    {u v : Nat} (he : (u, v) ∈ face.edges) : u < count ∧ v < count := by
  have ha := h.a
  have hb := h.b
  have hc := h.c
  rw [mem_edges] at he
  omega

end Face

/-! ### Repeated shapes -/

/-- A place in a list of blocks says which block it is in. -/
theorem eq_of_mul_add_eq {size k l p q : Nat} (hp : p < size) (hq : q < size)
    (h : size * k + p = size * l + q) : k = l ∧ p = q := by
  have hpos : 0 < size := by omega
  have hdiv := congrArg (· / size) h
  simp only [Nat.mul_add_div hpos, Nat.div_eq_of_lt hp, Nat.div_eq_of_lt hq, Nat.add_zero] at hdiv
  subst hdiv
  exact ⟨rfl, Nat.add_left_cancel h⟩

section Repeated

variable {shape : List (Face Nat)} {size count : Nat}
  (proper : ∀ face ∈ shape, face.Proper 0 size)

theorem mem_directed_repeated {u v : Nat} :
    (u, v) ∈ directed (repeated shape size count) ↔
      ∃ k < count, ∃ p q, (p, q) ∈ directed shape ∧ size * k + p = u ∧ size * k + q = v := by
  simp only [mem_directed, mem_repeated]
  constructor
  · rintro ⟨_, ⟨k, hk, own, hown, rfl⟩, he⟩
    obtain ⟨p, q, he, hu, hv⟩ := Face.mem_edges_shift.1 he
    exact ⟨k, hk, p, q, ⟨own, hown, he⟩, hu, hv⟩
  · rintro ⟨k, hk, p, q, ⟨own, hown, he⟩, hu, hv⟩
    exact ⟨_, ⟨k, hk, own, hown, rfl⟩, Face.mem_edges_shift.2 ⟨p, q, he, hu, hv⟩⟩

include proper

theorem lt_of_mem_directed {u v : Nat} (h : (u, v) ∈ directed shape) : u < size ∧ v < size := by
  obtain ⟨face, hface, he⟩ := mem_directed.1 h
  exact (proper face hface).lt_of_mem_edges he

/-- Two faces that clash behind `k` and `l` bodies are of one body, and clash
there. -/
theorem clashes_of_shift {f g : Face Nat} (hf : f ∈ shape) (hg : g ∈ shape) {k l : Nat}
    (h : (f.shift (size * k)).Clashes (g.shift (size * l))) : k = l ∧ f.Clashes g := by
  obtain ⟨⟨u, v⟩, hu, hv⟩ := h
  obtain ⟨p, q, hpq, rfl, rfl⟩ := Face.mem_edges_shift.1 hu
  obtain ⟨p', q', hpq', hp, hq⟩ := Face.mem_edges_shift.1 hv
  obtain ⟨hlt, hlt'⟩ := (proper f hf).lt_of_mem_edges hpq
  obtain ⟨hgt, hgt'⟩ := (proper g hg).lt_of_mem_edges hpq'
  obtain ⟨rfl, rfl⟩ := eq_of_mul_add_eq hgt hlt hp
  obtain ⟨-, rfl⟩ := eq_of_mul_add_eq hgt' hlt' hq
  exact ⟨rfl, _, hpq, hpq'⟩

/-- A consistent shape is consistent when it is repeated. -/
theorem consistent_repeated (h : Consistent shape) : Consistent (repeated shape size count) := by
  refine List.pairwise_flatMap.2 ⟨fun k _ => List.pairwise_map.2 ?_, ?_⟩
  · refine h.imp_of_mem fun hf hg hnot hclash => hnot ?_
    exact (clashes_of_shift proper hf hg hclash).2
  · refine List.pairwise_lt_range.imp fun hlt f hf g hg hclash => ?_
    obtain ⟨own, hown, rfl⟩ := List.mem_map.1 hf
    obtain ⟨other, hother, rfl⟩ := List.mem_map.1 hg
    exact hlt.ne (clashes_of_shift proper hown hother hclash).1

/-- The boundary of a repeated shape is that of the shape, in every block. -/
theorem onBoundary_repeated {u v : Nat} :
    OnBoundary (repeated shape size count) u v ↔
      ∃ k < count, ∃ p q, OnBoundary shape p q ∧ size * k + p = u ∧ size * k + q = v := by
  constructor
  · rintro ⟨he, hback⟩
    obtain ⟨k, hk, p, q, hpq, rfl, rfl⟩ := mem_directed_repeated.1 he
    refine ⟨k, hk, p, q, ⟨hpq, fun hqp => hback ?_⟩, rfl, rfl⟩
    exact mem_directed_repeated.2 ⟨k, hk, q, p, hqp, rfl, rfl⟩
  · rintro ⟨k, hk, p, q, ⟨hpq, hback⟩, rfl, rfl⟩
    refine ⟨mem_directed_repeated.2 ⟨k, hk, p, q, hpq, rfl, rfl⟩, fun hqp => hback ?_⟩
    obtain ⟨l, -, q', p', hqp', hq, hp⟩ := mem_directed_repeated.1 hqp
    obtain ⟨hlt, hlt'⟩ := lt_of_mem_directed proper hpq
    obtain ⟨hgt, hgt'⟩ := lt_of_mem_directed proper hqp'
    obtain ⟨-, rfl⟩ := eq_of_mul_add_eq hgt hlt' hq
    obtain ⟨-, rfl⟩ := eq_of_mul_add_eq hgt' hlt hp
    exact hqp'

end Repeated

/-! ### Walls -/

namespace Ring

variable {sections : Nat}

/-- The edges of a wall, in the directions in which its faces run along them. -/
theorem mem_directed_wall {u v : Nat} :
    (u, v) ∈ directed (wall sections) ↔ ∃ i < sections,
      (u, v) ∈ (lower sections i).edges ∨ (u, v) ∈ (upper sections i).edges := by
  simp only [mem_directed, wall, List.mem_append, List.mem_map, List.mem_range]
  constructor
  · rintro ⟨_, ⟨i, hi, rfl⟩ | ⟨i, hi, rfl⟩, he⟩
    · exact ⟨i, hi, Or.inl he⟩
    · exact ⟨i, hi, Or.inr he⟩
  · rintro ⟨i, hi, he | he⟩
    · exact ⟨_, Or.inl ⟨i, hi, rfl⟩, he⟩
    · exact ⟨_, Or.inr ⟨i, hi, rfl⟩, he⟩

/-- The boundary of a wall are its two rims. -/
theorem onBoundary_wall (h : 3 ≤ sections) {u v : Nat} :
    OnBoundary (wall sections) u v ↔ ∃ i < sections,
      (u = next sections i ∧ v = i) ∨ (u = sections + i ∧ v = sections + next sections i) := by
  simp only [OnBoundary, mem_directed_wall, Face.mem_edges, lower, upper]
  constructor
  · rintro ⟨⟨i, hi, he⟩, hback⟩
    -- the edges that are not on a rim are run back along: an upright by the
    -- face before or after it, a slanting edge by the other face of its gap
    rcases he with (⟨rfl, rfl⟩ | ⟨rfl, rfl⟩ | ⟨rfl, rfl⟩) | ⟨rfl, rfl⟩ | ⟨rfl, rfl⟩ | ⟨rfl, rfl⟩
    · obtain ⟨j, hj, hnext⟩ := exists_next hi
      exact absurd ⟨j, hj, Or.inr (Or.inr (Or.inr ⟨by rw [hnext], hnext.symm⟩))⟩ hback
    · exact absurd ⟨i, hi, Or.inr (Or.inl ⟨rfl, rfl⟩)⟩ hback
    · exact ⟨_, hi, Or.inl ⟨rfl, rfl⟩⟩
    · exact absurd ⟨i, hi, Or.inl (Or.inr (Or.inl ⟨rfl, rfl⟩))⟩ hback
    · exact ⟨_, hi, Or.inr ⟨rfl, rfl⟩⟩
    · exact absurd ⟨_, next_lt (by omega) i, Or.inl (Or.inl ⟨rfl, rfl⟩)⟩ hback
  · rintro ⟨i, hi, he⟩
    constructor
    · rcases he with ⟨rfl, rfl⟩ | ⟨rfl, rfl⟩
      · exact ⟨_, hi, Or.inl (Or.inr (Or.inr ⟨rfl, rfl⟩))⟩
      · exact ⟨_, hi, Or.inr (Or.inr (Or.inl ⟨rfl, rfl⟩))⟩
    · rintro ⟨j, hj, hback⟩
      obtain ⟨⟨hnexti, hnextj⟩, -, -, hapart⟩ := gaps_apart h hi hj
      rcases he with ⟨rfl, rfl⟩ | ⟨rfl, rfl⟩
      · omega
      · omega

end Ring

/-! ### Tubes -/

/-- The edges round the rims of `count` tubes: backwards round the ring at the
start, forwards round the one at the finish. -/
def Tube.Rim (sections count u v : Nat) : Prop :=
  ∃ k < count, ∃ i < sections,
    (u = 2 * sections * k + Ring.next sections i ∧ v = 2 * sections * k + i) ∨
    (u = 2 * sections * k + (sections + i) ∧
      v = 2 * sections * k + (sections + Ring.next sections i))

theorem onBoundary_tubes {sections count : Nat} (many : 3 ≤ sections) {u v : Nat} :
    OnBoundary (repeated (Ring.wall sections) (2 * sections) count) u v ↔
      Tube.Rim sections count u v := by
  rw [onBoundary_repeated (Ring.proper_wall (by omega))]
  simp only [Ring.onBoundary_wall many]
  constructor
  · rintro ⟨k, hk, p, q, ⟨i, hi, ⟨rfl, rfl⟩ | ⟨rfl, rfl⟩⟩, rfl, rfl⟩
    · exact ⟨k, hk, _, hi, Or.inl ⟨rfl, rfl⟩⟩
    · exact ⟨k, hk, _, hi, Or.inr ⟨rfl, rfl⟩⟩
  · rintro ⟨k, hk, i, hi, ⟨rfl, rfl⟩ | ⟨rfl, rfl⟩⟩
    · exact ⟨k, hk, _, _, ⟨i, hi, Or.inl ⟨rfl, rfl⟩⟩, rfl, rfl⟩
    · exact ⟨k, hk, _, _, ⟨i, hi, Or.inr ⟨rfl, rfl⟩⟩, rfl, rfl⟩

/-- The faces of one tube stay among its vertices. -/
theorem proper_block {sections : Nat} (many : 2 ≤ sections) (n : Nat) :
    ∀ face ∈ (Ring.wall sections).map (Face.shift n), face.Proper n (2 * sections) := by
  intro face hface
  obtain ⟨own, hown, rfl⟩ := List.mem_map.1 hface
  exact (Ring.proper_wall many own hown).shift n

/-- Each vertex of a tube is a corner of three of its faces. -/
theorem countP_block {sections : Nat} (many : 2 ≤ sections) {n v : Nat} (low : n ≤ v)
    (high : v < n + 2 * sections) :
    ((Ring.wall sections).map (Face.shift n)).countP (fun face => v ∈ face.corners) = 3 := by
  have hdistinct := fun face hface => (proper_block many n face hface).nodup_corners
  have hnodup := (Multiset.nodup_range (2 * sections)).map (add_right_injective n)
  have hcorners := corners_map_shift (Ring.corners_wall sections) n
  refine countP_of_times hdistinct hnodup hcorners (Multiset.mem_map.2 ⟨v - n, ?_, by omega⟩)
  exact Multiset.mem_range.2 (by omega)

/-- Each vertex of all tubes is a corner of three faces. -/
theorem countP_tubes {sections count v : Nat} (many : 2 ≤ sections)
    (hv : v < 2 * sections * count) :
    (repeated (Ring.wall sections) (2 * sections) count).countP (fun face => v ∈ face.corners) =
      3 := by
  have hdistinct : ∀ face ∈ repeated (Ring.wall sections) (2 * sections) count,
      face.corners.Nodup := by
    intro face hface
    obtain ⟨k, -, own, hown, rfl⟩ := mem_repeated.1 hface
    exact ((Ring.proper_wall many own hown).shift _).nodup_corners
  have hcorners := corners_repeated (Ring.corners_wall sections) count
  exact countP_of_times hdistinct (Multiset.nodup_range _) hcorners (Multiset.mem_range.2 hv)

/-- **Tubes are disjoint and open at their rims.** For a good radius and at
least three sections, tubes are made whenever the vertices of a ring are counted,
and by a counter without limit for every number of sections. A mesh of them that
has faces is made of one wall for each segment. Every wall
has its own vertices, each of which is a corner of three of its faces; no two
faces run along an edge in the same direction, and an edge is not run back
along exactly if it is on one of the two rims of a tube. -/
theorem tubes_open {α : Type} [Scalar α] {radius : Quantity α} {value : α}
    (positive : radius.positive = true) (hvalue : radius.value? = some value)
    (segments : List (Segment α)) {sections : Nat} (many : 3 ≤ sections) :
    let surface := tubes value sections segments
    (∀ counter mesh, branchTubes segments radius (Int.ofNat sections) counter = .ok mesh →
      mesh.faces ≠ [] → mesh = surface.painted Colour.branch) ∧
    branchTubes segments radius (Int.ofNat sections) .unlimited =
      .ok (surface.painted Colour.branch) ∧
    (∀ counter : Ring.Counter, (segments ≠ [] → counter.Counts (Int.ofNat sections)) →
      branchTubes segments radius (Int.ofNat sections) counter =
        .ok (surface.painted Colour.branch)) ∧
    surface.vertices.length = 2 * sections * segments.length ∧
    surface.faces.length = 2 * sections * segments.length ∧
    (∀ k < segments.length,
      let own := block (2 * sections) k surface.faces
      own.length = 2 * sections ∧
      (∀ face ∈ own, face.Proper (2 * sections * k) (2 * sections)) ∧
      ∀ v, 2 * sections * k ≤ v → v < 2 * sections * (k + 1) →
        own.countP (fun face => v ∈ face.corners) = 3) ∧
    (∀ v < 2 * sections * segments.length,
      surface.faces.countP (fun face => v ∈ face.corners) = 3) ∧
    Consistent surface.faces ∧
    ∀ u v, OnBoundary surface.faces u v ↔ Tube.Rim sections segments.length u v := by
  intro surface
  have hmany : 2 ≤ sections := by omega
  have hfaces : surface.faces = repeated (Ring.wall sections) (2 * sections) segments.length :=
    faces_tubes value sections segments
  refine ⟨fun counter mesh => eq_tubes_of_faces positive hvalue many,
    branchTubes_of_counts_or_nil positive hvalue many fun _ => Ring.Counter.counts_unlimited _,
    fun counter => branchTubes_of_counts_or_nil positive hvalue many,
    length_vertices_tubes value sections segments, length_faces_tubes value sections segments,
    fun k hk => ?_, fun v hv => ?_, ?_, fun u v => ?_⟩
  · intro own
    have hown : own = (Ring.wall sections).map (Face.shift (2 * sections * k)) :=
      block_faces_tubes hk value sections
    rw [hown]
    refine ⟨(List.length_map _).trans (Ring.length_wall sections), proper_block hmany _,
      fun v low high => countP_block hmany low ?_⟩
    rwa [Nat.mul_succ] at high
  · rw [hfaces]
    exact countP_tubes hmany hv
  · rw [hfaces]
    exact consistent_repeated (Ring.proper_wall hmany) (Ring.consistent_wall many)
  · rw [hfaces]
    exact onBoundary_tubes many

/-- Two branches with tubes of six sections. -/
theorem tubes_open_fork :
    let tip : Point Float := ⟨0.0, 0.5, 0.0⟩
    let segments : List (Segment Float) := [⟨Point.origin, tip⟩, ⟨tip, ⟨0.5, 0.5, 0.0⟩⟩]
    let radius : Quantity Float := .scalar 0.02
    radius.positive = true ∧ radius.value? = some 0.02 ∧ 3 ≤ 6 ∧
      ∃ mesh, branchTubes segments radius 6 = .ok mesh ∧ mesh.faces.length = 24 ∧
        Consistent (mesh.faces.map Prod.fst) ∧
        OnBoundary (mesh.faces.map Prod.fst) 12 17 ∧
        ¬OnBoundary (mesh.faces.map Prod.fst) 17 12 := by
  intro tip segments radius
  have positive : radius.positive = true := by decide
  have hvalue : radius.value? = some 0.02 := rfl
  obtain ⟨-, -, hmade, -, hlength, -, -, hconsistent, hboundary⟩ :=
    tubes_open positive hvalue segments (by decide : 3 ≤ 6)
  have hrim : Tube.Rim 6 2 12 17 := ⟨1, by decide, 5, by decide, Or.inl ⟨rfl, rfl⟩⟩
  have hcounts := Ring.Counter.counts_machine (by decide : 6 < 2 ^ 27)
  refine ⟨positive, hvalue, by decide, _, hmade _ fun _ => hcounts, ?_, ?_, ?_, ?_⟩
  · rw [Surface.painted, List.length_map]
    exact hlength
  · rw [Surface.faces_painted]
    exact hconsistent
  · rw [Surface.faces_painted]
    exact (hboundary 12 17).2 hrim
  · rw [Surface.faces_painted]
    exact fun hback => hback.2 ((hboundary 12 17).2 hrim).1

end Arbor
