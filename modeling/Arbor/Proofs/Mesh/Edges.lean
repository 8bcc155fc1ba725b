/-
# Edges and their directions

A face runs along its three edges from one corner to the next. Two faces clash
if they run along an edge in the same direction, and a list of faces is
consistent if no two of them clash: then any two faces with a common edge show
the same side of the surface.

The wall between two rings is consistent (`Ring.consistent_wall`), and every
rim edge of it is run along once, backwards round the lower ring and forwards
round the upper one. A cap that closes a vase runs along the rim as the wall
does, so each of its faces clashes with one of the wall
(`Vase.bottomFace_clashes`, `Vase.topFace_clashes`). With its caps the other
way round the vase is consistent (`Vase.consistent_reversed`).

Key definitions: `Face.edges`, `Face.Clashes`, `Consistent`, `Face.reversed`,
`Vase.caps`.
Key theorems: `Ring.next_cases`, `Ring.gaps_apart`, `Ring.consistent_wall`,
`Vase.clashes_of_cap`, `Vase.consistent_reversed`.
-/
import Arbor.Proofs.Mesh.Parts

namespace Arbor

/-! ### Faces that clash -/

namespace Face

variable {ι : Type}

/-- The edges of a face, each in the direction in which the face runs along
it. -/
def edges (face : Face ι) : List (ι × ι) := [(face.a, face.b), (face.b, face.c), (face.c, face.a)]

/-- Two faces clash if they run along an edge in the same direction. -/
def Clashes (f g : Face ι) : Prop := ∃ e ∈ f.edges, e ∈ g.edges

instance [DecidableEq ι] (f g : Face ι) : Decidable (f.Clashes g) :=
  inferInstanceAs (Decidable (∃ e ∈ f.edges, e ∈ g.edges))

theorem mem_edges {face : Face ι} {u v : ι} :
    (u, v) ∈ face.edges ↔
      (u = face.a ∧ v = face.b) ∨ (u = face.b ∧ v = face.c) ∨ (u = face.c ∧ v = face.a) := by
  simp [edges]

theorem clashes_iff {f g : Face ι} :
    f.Clashes g ↔ (f.a, f.b) ∈ g.edges ∨ (f.b, f.c) ∈ g.edges ∨ (f.c, f.a) ∈ g.edges := by
  simp [Clashes, edges]

theorem Clashes.symm {f g : Face ι} (h : f.Clashes g) : g.Clashes f := by
  obtain ⟨e, hf, hg⟩ := h
  exact ⟨e, hg, hf⟩

/-- The same triangle, the other way round. -/
def reversed (face : Face ι) : Face ι := ⟨face.a, face.c, face.b⟩

end Face

/-- No two faces of the list clash. -/
def Consistent {ι : Type} (faces : List (Face ι)) : Prop := faces.Pairwise fun f g => ¬ f.Clashes g

instance {ι : Type} [DecidableEq ι] (faces : List (Face ι)) : Decidable (Consistent faces) :=
  inferInstanceAs (Decidable (faces.Pairwise fun f g => ¬ f.Clashes g))

theorem consistent_append {ι : Type} {s t : List (Face ι)} :
    Consistent (s ++ t) ↔
      Consistent s ∧ Consistent t ∧ ∀ f ∈ s, ∀ g ∈ t, ¬ f.Clashes g := List.pairwise_append

@[simp] theorem Surface.faces_painted {α : Type} (s : Surface α) (colour : Colour) :
    (s.painted colour).faces.map Prod.fst = s.faces := by
  simp only [Surface.painted, List.map_map]
  exact List.map_id s.faces

/-- A family of faces in which a later one never clashes with an earlier
one. -/
theorem consistent_family {ι : Type} {family : Nat → Face ι} {n : Nat}
    (h : ∀ i j, i < j → j < n → ¬ (family i).Clashes (family j)) :
    Consistent ((List.range n).map family) := by
  unfold Consistent
  rw [List.pairwise_map]
  refine List.pairwise_lt_range.imp_of_mem fun {i j} _ hj hij => ?_
  exact h i j hij (List.mem_range.1 hj)

/-! ### Walls -/

namespace Ring

variable {sections : Nat}

/-- The last vertex of a ring is followed by the first one. -/
theorem next_cases {i : Nat} (hi : i < sections) :
    (i + 1 = sections ∧ next sections i = 0) ∨ (i + 1 < sections ∧ next sections i = i + 1) := by
  unfold next
  by_cases hlast : i + 1 = sections
  · exact Or.inl ⟨hlast, by rw [hlast, Nat.mod_self]⟩
  · have hlt : i + 1 < sections := by omega
    exact Or.inr ⟨hlt, Nat.mod_eq_of_lt hlt⟩

/-- What the edges of two gaps `i` and `j` are told apart by: different vertices
are followed by different ones, and no two vertices follow each other both
ways. -/
theorem gaps_apart (h : 3 ≤ sections) {i j : Nat} (hi : i < sections) (hj : j < sections) :
    (next sections i < sections ∧ next sections j < sections) ∧
    (next sections i ≠ i ∧ next sections j ≠ j) ∧
    (next sections i = next sections j → i = j) ∧
    (next sections i = j → next sections j ≠ i) := by
  have hnexti := next_cases hi
  have hnextj := next_cases hj
  omega

/-- The wall between two rings is consistent. -/
theorem consistent_wall (h : 3 ≤ sections) : Consistent (wall sections) := by
  -- lower triangles with each other, upper ones with each other, one of each
  refine consistent_append.2 ⟨consistent_family fun i j hij hj => ?_,
    consistent_family fun i j hij hj => ?_, ?_⟩
  · have apart := gaps_apart h (by omega : i < sections) hj
    simp only [Face.clashes_iff, Face.mem_edges, lower]
    omega
  · have apart := gaps_apart h (by omega : i < sections) hj
    simp only [Face.clashes_iff, Face.mem_edges, upper]
    omega
  · simp only [List.mem_map, List.mem_range, forall_exists_index, and_imp]
    rintro _ i hi rfl _ j hj rfl
    have apart := gaps_apart h hi hj
    simp only [Face.clashes_iff, Face.mem_edges, lower, upper]
    omega

end Ring

/-! ### Caps -/

namespace Vase

variable {sections : Nat}

/-- The faces of the two caps of a vase. -/
def caps (sections : Nat) : List (Face Nat) :=
  (List.range sections).map (bottomFace sections) ++ (List.range sections).map (topFace sections)

theorem faces_eq_wall_append_caps (sections : Nat) :
    faces sections = Ring.wall sections ++ caps sections := List.append_assoc _ _ _

theorem mem_caps {face : Face Nat} :
    face ∈ caps sections ↔
      ∃ i < sections, face = bottomFace sections i ∨ face = topFace sections i := by
  simp only [caps, List.mem_append, List.mem_map, List.mem_range]
  constructor
  · rintro (⟨i, hi, rfl⟩ | ⟨i, hi, rfl⟩)
    · exact ⟨i, hi, Or.inl rfl⟩
    · exact ⟨i, hi, Or.inr rfl⟩
  · rintro ⟨i, hi, rfl | rfl⟩
    · exact Or.inl ⟨i, hi, rfl⟩
    · exact Or.inr ⟨i, hi, rfl⟩

/-- The bottom runs along its rim as the lower triangles of the wall do. -/
theorem bottomFace_clashes (sections i : Nat) :
    (bottomFace sections i).Clashes (Ring.lower sections i) :=
  Face.clashes_iff.2 (Or.inr (Or.inl (Face.mem_edges.2 (Or.inr (Or.inr ⟨rfl, rfl⟩)))))

/-- The top runs along its rim as the upper triangles of the wall do. -/
theorem topFace_clashes (sections i : Nat) :
    (topFace sections i).Clashes (Ring.upper sections i) :=
  Face.clashes_iff.2 (Or.inr (Or.inl (Face.mem_edges.2 (Or.inr (Or.inl ⟨rfl, rfl⟩)))))

/-- Every face of a cap clashes with one of the wall. -/
theorem clashes_of_cap {face : Face Nat} (hface : face ∈ caps sections) :
    ∃ side ∈ Ring.wall sections, face.Clashes side := by
  obtain ⟨i, hi, rfl | rfl⟩ := mem_caps.1 hface
  · exact ⟨_, List.mem_append_left _ (List.mem_map_of_mem (List.mem_range.2 hi)),
      bottomFace_clashes sections i⟩
  · exact ⟨_, List.mem_append_right _ (List.mem_map_of_mem (List.mem_range.2 hi)),
      topFace_clashes sections i⟩

/-- A vase is not consistent. -/
theorem not_consistent_faces (h : 0 < sections) : ¬ Consistent (faces sections) := by
  intro hconsistent
  have hcap : bottomFace sections 0 ∈ caps sections := mem_caps.2 ⟨0, h, Or.inl rfl⟩
  obtain ⟨side, hside, hclash⟩ := clashes_of_cap hcap
  rw [faces_eq_wall_append_caps, consistent_append] at hconsistent
  exact hconsistent.2.2 side hside _ hcap hclash.symm

theorem caps_reversed (sections : Nat) :
    (caps sections).map Face.reversed =
      (List.range sections).map (fun i => (bottomFace sections i).reversed) ++
        (List.range sections).map fun i => (topFace sections i).reversed := by
  simp only [caps, List.map_append, List.map_map]
  rfl

/-- With its caps the other way round a vase is consistent. -/
theorem consistent_reversed (h : 3 ≤ sections) :
    Consistent (Ring.wall sections ++ (caps sections).map Face.reversed) := by
  rw [caps_reversed]
  -- a cap touches the wall in the rim only, where the two run in opposite directions
  refine consistent_append.2 ⟨Ring.consistent_wall h, consistent_append.2
    ⟨consistent_family fun i j hij hj => ?_, consistent_family fun i j hij hj => ?_, ?_⟩, ?_⟩
  · have apart := Ring.gaps_apart h (by omega : i < sections) hj
    simp only [Face.clashes_iff, Face.mem_edges, Face.reversed, bottomFace]
    omega
  · have apart := Ring.gaps_apart h (by omega : i < sections) hj
    simp only [Face.clashes_iff, Face.mem_edges, Face.reversed, topFace]
    omega
  · simp only [List.mem_map, List.mem_range, forall_exists_index, and_imp]
    rintro _ i hi rfl _ j hj rfl
    have apart := Ring.gaps_apart h hi hj
    simp only [Face.clashes_iff, Face.mem_edges, Face.reversed, bottomFace, topFace]
    omega
  · simp only [Ring.wall, List.mem_append, List.mem_map, List.mem_range]
    rintro _ (⟨i, hi, rfl⟩ | ⟨i, hi, rfl⟩) _ (⟨j, hj, rfl⟩ | ⟨j, hj, rfl⟩)
    all_goals
      have apart := Ring.gaps_apart h hi hj
      simp only [Face.clashes_iff, Face.mem_edges, Face.reversed, bottomFace, topFace, Ring.lower,
        Ring.upper]
      omega

end Vase
end Arbor
