/-
# One shape over and over

The tubes of a list of segments have the faces of one wall, those of the
spheres at a list of points the faces of one sphere, each time behind the
vertices of the bodies in front (`repeated`). A list that is made of runs of
one length comes in blocks, and block `k` is the run of item `k`
(`block_flatMap`); so it is for the vertices and for the faces of tubes and of
spheres.

Key definitions: `block`, `repeated`.
Key theorems: `block_flatMap`, `repeated_add`, `block_repeated`,
`block_vertices_tubes`, `block_faces_tubes`, `block_vertices_copies`.
-/
import Arbor.Proofs.Mesh.Parts

namespace Arbor

/-! ### Blocks of a list -/

/-- Block `k` of a list that comes in blocks of `n` elements. -/
def block {β : Type} (n k : Nat) (l : List β) : List β := (l.drop (n * k)).take n

section Block

variable {β δ : Type} {n : Nat}

theorem getElem?_block {l : List β} {i : Nat} (h : i < n) (k : Nat) :
    (block n k l)[i]? = l[n * k + i]? := by
  rw [block, List.getElem?_take, if_pos h, List.getElem?_drop]

/-- In a list of runs of one length, block `k` is the run of item `k`. -/
theorem block_flatMap {f : β → List δ} {items : List β} {k : Nat} {item : β}
    (h : ∀ item ∈ items, (f item).length = n) (hk : items[k]? = some item) :
    block n k (items.flatMap f) = f item := by
  induction items generalizing k with
  | nil => cases hk
  | cons first items ih =>
    have hfirst : (f first).length = n := h first List.mem_cons_self
    rw [block, List.flatMap_cons]
    cases k with
    | zero =>
      obtain rfl : first = item := Option.some.inj hk
      rw [Nat.mul_zero, List.drop_zero, ← hfirst, List.take_left]
    | succ k =>
      have hlater := ih (fun other hother => h other (List.mem_cons_of_mem first hother)) hk
      rw [Nat.mul_succ, Nat.add_comm, ← List.drop_drop, ← hfirst, List.drop_left, hfirst]
      exact hlater

end Block

/-! ### Repeated faces -/

/-- The faces of a shape with `size` vertices, repeated `count` times with their
own vertices each time. -/
def repeated (shape : List (Face Nat)) (size count : Nat) : List (Face Nat) :=
  (List.range count).flatMap fun k => shape.map (Face.shift (size * k))

section Repeated

variable (shape : List (Face Nat)) (size : Nat)

theorem length_repeated (count : Nat) :
    (repeated shape size count).length = count * shape.length := by
  rw [repeated, length_flatMap_const fun k _ => List.length_map _, List.length_range]

theorem repeated_add (m n : Nat) :
    repeated shape size (m + n) =
      repeated shape size m ++ (repeated shape size n).map (Face.shift (size * m)) := by
  have hshift : ∀ k, Face.shift (size * m) ∘ Face.shift (size * k) = Face.shift (size * (m + k)) :=
    fun k => funext fun face => by
      rw [Function.comp_apply, Face.shift_shift, Nat.mul_add]
  unfold repeated
  rw [List.range_add, List.flatMap_append, List.flatMap_map, List.map_flatMap]
  simp only [List.map_map, hshift]

theorem repeated_succ (n : Nat) :
    repeated shape size (n + 1) = repeated shape size n ++ shape.map (Face.shift (size * n)) := by
  rw [repeated, List.range_succ, List.flatMap_append, List.flatMap_singleton]
  rfl

variable {shape size} {count : Nat}

theorem mem_repeated {face : Face Nat} :
    face ∈ repeated shape size count ↔
      ∃ k < count, ∃ own ∈ shape, own.shift (size * k) = face := by
  simp only [repeated, List.mem_flatMap, List.mem_range, List.mem_map]

theorem block_repeated {n k : Nat} (hn : shape.length = n) (hk : k < count) :
    block n k (repeated shape size count) = shape.map (Face.shift (size * k)) :=
  block_flatMap (fun _ _ => (List.length_map _).trans hn) (List.getElem?_range hk)

/-- What is repeated for every item does not depend on the items. -/
theorem flatMap_zipIdx_eq_repeated {β : Type} (items : List β) :
    (items.zipIdx.flatMap fun (_, place) => shape.map (Face.shift (place * size))) =
      repeated shape size items.length := by
  have hplaces : items.zipIdx.map Prod.snd = List.range items.length := by
    rw [List.zipIdx_map_snd, List.range_eq_range']
  rw [repeated, ← hplaces, List.flatMap_map]
  simp only [Nat.mul_comm size]

end Repeated

/-! ### Tubes and spheres -/

section Bodies

variable {α : Type} [Scalar α]

theorem faces_tubes (radius : α) (sections : Nat) (segments : List (Segment α)) :
    (tubes radius sections segments).faces =
      repeated (Ring.wall sections) (2 * sections) segments.length :=
  flatMap_zipIdx_eq_repeated segments

theorem faces_copies (s : Surface α) (points : List (Point α)) :
    (copies s points).faces = repeated s.faces s.vertices.length points.length :=
  flatMap_zipIdx_eq_repeated points

theorem length_vertices_tubes (radius : α) (sections : Nat) (segments : List (Segment α)) :
    (tubes radius sections segments).vertices.length = 2 * sections * segments.length := by
  show (segments.flatMap (Tube.vertices radius (Ring.turns sections))).length = _
  rw [length_flatMap_const fun s _ => Tube.length_vertices radius sections s, Nat.mul_comm]

theorem length_faces_tubes (radius : α) (sections : Nat) (segments : List (Segment α)) :
    (tubes radius sections segments).faces.length = 2 * sections * segments.length := by
  rw [faces_tubes, length_repeated, Ring.length_wall, Nat.mul_comm]

theorem length_vertices_copies (s : Surface α) (points : List (Point α)) :
    (copies s points).vertices.length = points.length * s.vertices.length :=
  length_flatMap_const fun _ _ => List.length_map _

variable {segments : List (Segment α)} {k : Nat}

/-- Block `k` of the vertices of tubes are those of the tube of segment `k`. -/
theorem block_vertices_tubes {s : Segment α} (hs : segments[k]? = some s) (radius : α)
    (sections : Nat) :
    block (2 * sections) k (tubes radius sections segments).vertices =
      Tube.vertices radius (Ring.turns sections) s :=
  block_flatMap (fun s _ => Tube.length_vertices radius sections s) hs

/-- Block `k` of the faces of tubes is a wall behind the first `k` tubes. -/
theorem block_faces_tubes (hk : k < segments.length) (radius : α) (sections : Nat) :
    block (2 * sections) k (tubes radius sections segments).faces =
      (Ring.wall sections).map (Face.shift (2 * sections * k)) := by
  rw [faces_tubes]
  exact block_repeated (Ring.length_wall sections) hk

/-- Block `k` of the vertices of copies is the surface moved by point `k`. -/
theorem block_vertices_copies (s : Surface α) {points : List (Point α)} {p : Point α}
    (hp : points[k]? = some p) :
    block s.vertices.length k (copies s points).vertices = s.vertices.map (· + p) :=
  block_flatMap (fun _ _ => List.length_map _) hp

/-! ### Meshes of tubes -/

section Made

variable {radius : Quantity α} {value : α} (positive : radius.positive = true)
  (hvalue : radius.value? = some value) {sections : Nat} (many : 3 ≤ sections)

include positive hvalue many

/-- Tubes are made if the vertices of a ring are counted, or there is no
segment. -/
theorem branchTubes_of_counts_or_nil {counter : Ring.Counter}
    (counted : segments ≠ [] → counter.Counts (Int.ofNat sections)) :
    branchTubes segments radius (Int.ofNat sections) counter =
      .ok ((tubes value sections segments).painted Colour.branch) := by
  cases segments with
  | nil =>
    have hmany : ¬Int.ofNat sections < 3 := by
      rw [Int.ofNat_eq_natCast]
      omega
    rw [branchTubes, positive, if_neg (by decide), if_neg hmany]
    rfl
  | cons s segments =>
    have some := List.cons_ne_nil s segments
    exact branchTubes_of_counts some positive hvalue many (counted some)

/-- A mesh of tubes that has any face has rings with as many vertices as they
should have. -/
theorem eq_tubes_of_faces {counter : Ring.Counter} {mesh : Mesh α}
    (h : branchTubes segments radius (Int.ofNat sections) counter = .ok mesh)
    (faces : mesh.faces ≠ []) :
    mesh = (tubes value sections segments).painted Colour.branch := by
  by_cases some : segments = []
  · rw [branchTubes_of_counts_or_nil positive hvalue many fun hsome => absurd some hsome] at h
    exact (Except.ok.inj h).symm
  · have hmany : 3 ≤ Int.ofNat sections := by
      rw [Int.ofNat_eq_natCast]
      omega
    obtain ⟨count, hcount, rfl⟩ := exists_count_of_branchTubes some positive hvalue hmany h
    rcases counter.faithful hcount with rfl | rfl
    · rfl
    · refine absurd ?_ faces
      rw [← List.length_eq_zero_iff, Surface.painted, List.length_map, length_faces_tubes,
        Nat.mul_zero, Nat.zero_mul]

end Made

end Bodies
end Arbor
