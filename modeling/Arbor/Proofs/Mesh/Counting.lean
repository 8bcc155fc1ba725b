/-
# Counting corners and sides

A face has three corners and three sides, which are edges without a direction.
How many faces have a vertex or an edge is how often it occurs among the
corners or the sides of all faces (`countP_mem`). For faces that go round a
ring these are counted with `Ring.round`: what all vertices of a ring give, in
no order. Going round from the next vertex gives the same (`Ring.round_next`).

Key definitions: `Face.corners`, `Face.sides`, `Ring.round`.
Key theorems: `countP_mem`, `countP_of_times`, `Ring.round_next`,
`Ring.corners_family`, `Ring.sides_family`, `Ring.corners_wall`,
`corners_repeated`.
-/
import Mathlib
import Arbor.Proofs.Mesh.Edges
import Arbor.Proofs.Mesh.Repeated

namespace Arbor

/-! ### Corners and sides -/

namespace Face

variable {ι : Type}

/-- The three corners of a face. -/
def corners (face : Face ι) : List ι := [face.a, face.b, face.c]

/-- The three edges of a face, without their directions. -/
def sides (face : Face ι) : List (Sym2 ι) :=
  [s(face.a, face.b), s(face.b, face.c), s(face.c, face.a)]

variable {start count : Nat} {face : Face Nat}

theorem Proper.nodup_corners (h : face.Proper start count) : face.corners.Nodup := by
  have hca := h.ca.symm
  simp [corners, h.ab, h.bc, hca]

theorem Proper.nodup_sides (h : face.Proper start count) : face.sides.Nodup := by
  have hab := h.ab
  have hbc := h.bc
  have hca := h.ca
  simp only [sides, List.nodup_cons, List.mem_cons, List.not_mem_nil, or_false, Sym2.eq_iff,
    not_false_eq_true, List.nodup_nil, and_true]
  omega

end Face

/-- How many elements have something in their lists is how often it occurs in
all lists, if no list has anything twice. -/
theorem countP_mem {β δ : Type} [DecidableEq δ] {f : β → List δ} {l : List β}
    (h : ∀ x ∈ l, (f x).Nodup) (e : δ) :
    l.countP (fun x => e ∈ f x) = (l.flatMap f).count e := by
  induction l with
  | nil => rfl
  | cons x l ih =>
    have hrest := ih fun y hy => h y (List.mem_cons_of_mem x hy)
    rw [List.countP_cons, List.flatMap_cons, List.count_append, hrest,
      (h x List.mem_cons_self).count, Nat.add_comm]
    simp only [decide_eq_true_eq]

/-- If the lists of all elements are different things, each so many times, so many
elements have each of them. -/
theorem countP_of_times {β δ : Type} [DecidableEq δ] {f : β → List δ} {l : List β}
    (distinct : ∀ x ∈ l, (f x).Nodup) {times : Nat} {all : Multiset δ} (nodup : all.Nodup)
    (h : ((l.flatMap f : List δ) : Multiset δ) = times • all) {e : δ} (he : e ∈ all) :
    l.countP (fun x => e ∈ f x) = times := by
  have hcount := congrArg (Multiset.count e) h
  rw [Multiset.count_nsmul, Multiset.coe_count, Multiset.count_eq_one_of_mem nodup he,
    mul_one] at hcount
  exact (countP_mem distinct e).trans hcount

theorem corners_shift (faces : List (Face Nat)) (n : Nat) :
    (faces.map (Face.shift n)).flatMap Face.corners =
      (faces.flatMap Face.corners).map (n + ·) := by
  rw [List.flatMap_map, List.map_flatMap]
  rfl

/-! ### Round a ring -/

namespace Ring

variable {sections : Nat}

/-- Every vertex of a ring follows one. -/
theorem exists_next {v : Nat} (hv : v < sections) : ∃ i < sections, next sections i = v := by
  cases v with
  | zero => exact ⟨sections - 1, by omega, by rw [next, Nat.sub_add_cancel hv, Nat.mod_self]⟩
  | succ i => exact ⟨i, by omega, Nat.mod_eq_of_lt hv⟩

/-- No two vertices of a ring are followed by the same one. -/
theorem next_inj {i j : Nat} (hi : i < sections) (hj : j < sections)
    (h : next sections i = next sections j) : i = j := by
  have hnexti := next_cases hi
  have hnextj := next_cases hj
  omega

variable {β : Type}

/-- What all vertices of a ring give. -/
def round (sections : Nat) (f : Nat → β) : Multiset β := (Multiset.range sections).map f

theorem map_next (sections : Nat) :
    (Multiset.range sections).map (next sections) = Multiset.range sections := by
  have hnodup : ((List.range sections).map (next sections)).Nodup :=
    List.Nodup.map_on (fun i hi j hj => next_inj (List.mem_range.1 hi) (List.mem_range.1 hj))
      List.nodup_range
  refine Multiset.coe_eq_coe.2 ((List.perm_ext_iff_of_nodup hnodup List.nodup_range).2 fun v => ?_)
  rw [List.mem_map, List.mem_range]
  constructor
  · rintro ⟨i, hi, rfl⟩
    exact next_lt (Nat.zero_lt_of_lt (List.mem_range.1 hi)) i
  · intro hv
    obtain ⟨i, hi, hnext⟩ := exists_next hv
    exact ⟨i, List.mem_range.2 hi, hnext⟩

/-- All vertices are also the ones that follow all vertices. -/
theorem round_next (f : Nat → β) :
    round sections (fun i => f (next sections i)) = round sections f := by
  nth_rewrite 2 [round]
  rw [← map_next, Multiset.map_map]
  rfl

theorem round_swap (f g : Nat → Nat) :
    round sections (fun i => s(f i, g i)) = round sections fun i => s(g i, f i) :=
  congrArg (round sections) (funext fun _ => Sym2.eq_swap)

theorem bind_three (f g h : Nat → β) :
    (((List.range sections).flatMap fun i => [f i, g i, h i] : List β) : Multiset β) =
      round sections f + round sections g + round sections h := by
  rw [← Multiset.coe_bind]
  show (Multiset.range sections).bind (fun i => f i ::ₘ g i ::ₘ h i ::ₘ 0) = _
  rw [Multiset.bind_cons, Multiset.bind_cons, Multiset.bind_cons, Multiset.bind_zero, add_zero,
    ← add_assoc]
  rfl

/-- The corners of faces that go round a ring. -/
theorem corners_family (family : Nat → Face Nat) :
    ((((List.range sections).map family).flatMap Face.corners : List Nat) : Multiset Nat) =
      round sections (fun i => (family i).a) + round sections (fun i => (family i).b) +
        round sections fun i => (family i).c := by
  rw [List.flatMap_map]
  exact bind_three _ _ _

/-- The sides of faces that go round a ring. -/
theorem sides_family (family : Nat → Face Nat) :
    ((((List.range sections).map family).flatMap Face.sides : List (Sym2 Nat)) :
      Multiset (Sym2 Nat)) =
      round sections (fun i => s((family i).a, (family i).b)) +
        round sections (fun i => s((family i).b, (family i).c)) +
          round sections fun i => s((family i).c, (family i).a) := by
  rw [List.flatMap_map]
  exact bind_three _ _ _

/-- Every vertex of two rings is three times a corner of the wall. -/
theorem corners_wall (sections : Nat) :
    (((wall sections).flatMap Face.corners : List Nat) : Multiset Nat) =
      3 • Multiset.range (2 * sections) := by
  have hlower : round sections (fun i => (lower sections i).c) = round sections id :=
    round_next id
  have hupper : round sections (fun i => (upper sections i).a) = round sections id :=
    round_next id
  have hlast : round sections (fun i => (upper sections i).c) = round sections (sections + ·) :=
    round_next (sections + ·)
  have hboth : Multiset.range (2 * sections) =
      round sections id + round sections (sections + ·) := by
    rw [two_mul, Multiset.range_add, round, Multiset.map_id]
    rfl
  rw [wall, List.flatMap_append, ← Multiset.coe_add, corners_family, corners_family, hlower,
    hupper, hlast, hboth]
  show round sections id + round sections (sections + ·) + round sections id +
    (round sections id + round sections (sections + ·) + round sections (sections + ·)) = _
  abel

end Ring

section Repeated

variable {shape : List (Face Nat)} {size times : Nat}
  (h : ((shape.flatMap Face.corners : List Nat) : Multiset Nat) = times • Multiset.range size)

include h

/-- Behind `n` more vertices each of a shape is as often a corner. -/
theorem corners_map_shift (n : Nat) :
    (((shape.map (Face.shift n)).flatMap Face.corners : List Nat) : Multiset Nat) =
      times • (Multiset.range size).map (n + ·) := by
  rw [corners_shift, ← Multiset.map_coe, h, Multiset.map_nsmul]

/-- If every vertex of a shape is as often a corner, so is every vertex of the
repeated shape. -/
theorem corners_repeated (count : Nat) :
    (((repeated shape size count).flatMap Face.corners : List Nat) : Multiset Nat) =
      times • Multiset.range (size * count) := by
  induction count with
  | zero => simp [repeated]
  | succ n ih =>
    rw [repeated_succ, List.flatMap_append, ← Multiset.coe_add, ih, corners_map_shift h,
      ← nsmul_add, ← Multiset.range_add, Nat.mul_succ]

end Repeated

end Arbor
