/-
# The parts of a scene

The tubes of the branches, the spheres of the leaves and the flowers and the
vase are each made of bodies. For the tubes and the spheres it is one shape
whose faces are repeated behind each other; the shape of a tube is the wall
between two rings, that of a sphere comes from one division of the regular
body. Each part with good measures is a mesh of its bodies, and it has no
vertices if it has no faces.

Key definitions: `Vase.Good`, `Quantity.Reckoned`.
Key theorems: `composed_repeat`, `Ring.proper_wall`, `Mesh.madeOf_tubes`,
`Mesh.madeOf_copies`, `Sphere.proper_once`, `Mesh.madeOf_vase`,
`Vase.Good.made_iff`, `branchTubes_eq`, `branchTubes_of_counts`,
`branchTubes_of_positive`, `markers_of_positive`.
-/
import Arbor.Mesh.Scene
import Arbor.Proofs.Mesh.Composed

namespace Arbor

/-! ### One shape over and over -/

/-- The faces of a shape, repeated with their own vertices for every item. -/
theorem composed_repeat {β : Type} {shape : List (Face Nat)} {size : Nat}
    (proper : ∀ face ∈ shape, face.Proper 0 size) (colour : Colour) (items : List β)
    (first : Nat) :
    Composed (List.replicate items.length ⟨size, shape.length, colour⟩) (first * size)
      (((items.zipIdx first).flatMap fun (_, place) =>
        shape.map (Face.shift (place * size))).map fun face => (face, colour)) := by
  induction items generalizing first with
  | nil => exact rfl
  | cons item items ih =>
    have hnext := ih (first + 1)
    rw [Nat.succ_mul] at hnext
    rw [List.zipIdx_cons, List.flatMap_cons, List.map_append]
    refine ⟨_, _, rfl, ?_, ?_, hnext⟩
    · rw [List.length_map, List.length_map]
    · intro face hface
      simp only [List.map_map, List.mem_map, Function.comp_apply] at hface
      obtain ⟨own, hown, rfl⟩ := hface
      exact ⟨(proper own hown).shift (first * size), rfl⟩

/-! ### Rings and tubes -/

namespace Ring

variable {sections : Nat}

theorem next_lt (h : 0 < sections) (i : Nat) : next sections i < sections := Nat.mod_lt _ h

theorem next_ne (h : 2 ≤ sections) {i : Nat} (hi : i < sections) : next sections i ≠ i := by
  unfold next
  by_cases hlast : i + 1 = sections
  · rw [hlast, Nat.mod_self]
    omega
  · rw [Nat.mod_eq_of_lt (by omega)]
    omega

theorem length_wall (sections : Nat) : (wall sections).length = 2 * sections := by
  simp only [wall, List.length_append, List.length_map, List.length_range]
  omega

/-- The wall between two rings stays between them. -/
theorem proper_wall (h : 2 ≤ sections) : ∀ face ∈ wall sections, face.Proper 0 (2 * sections) := by
  intro face hface
  simp only [wall, List.mem_append, List.mem_map, List.mem_range] at hface
  rw [Face.proper_iff]
  rcases hface with ⟨i, hi, rfl⟩ | ⟨i, hi, rfl⟩
  · have hlt := next_lt (by omega : 0 < sections) i
    have hne := next_ne h hi
    simp only [lower]
    omega
  · have hlt := next_lt (by omega : 0 < sections) i
    have hne := next_ne h hi
    simp only [upper]
    omega

theorem length_turns {α : Type} [Scalar α] (sections : Nat) :
    (turns sections : List (α × α)).length = sections := by
  simp [turns]

end Ring

section Parts

variable {α : Type} [Scalar α]

theorem Tube.length_vertices (radius : α) (sections : Nat) (s : Segment α) :
    (Tube.vertices radius (Ring.turns sections) s).length = 2 * sections := by
  simp only [Tube.vertices, Tube.offsets, List.length_append, List.length_map, Ring.length_turns]
  omega

theorem length_flatMap_const {β δ : Type} {f : β → List δ} {n : Nat} {items : List β}
    (h : ∀ item ∈ items, (f item).length = n) : (items.flatMap f).length = items.length * n := by
  have hsame : (items.map fun item => (f item).length) = items.map fun _ => n :=
    List.map_congr_left h
  rw [List.length_flatMap, hsame, List.map_const', List.sum_replicate_nat]

namespace Mesh

/-- Tubes, one for every segment. -/
theorem madeOf_tubes (radius : α) {sections : Nat} (h : 2 ≤ sections)
    (segments : List (Segment α)) (colour : Colour) :
    MadeOf (List.replicate segments.length ⟨2 * sections, 2 * sections, colour⟩)
      ((tubes radius sections segments).painted colour) where
  vertices := by
    show (segments.flatMap (Tube.vertices radius (Ring.turns sections))).length = _
    rw [length_flatMap_const fun s _ => Tube.length_vertices radius sections s,
      bodyVertices_replicate]
  faces := by
    have hrepeat := composed_repeat (Ring.proper_wall h) colour segments 0
    rw [Nat.zero_mul, Ring.length_wall] at hrepeat
    exact hrepeat

/-- Copies of a surface, one for every point. -/
theorem madeOf_copies {s : Surface α} (proper : ∀ face ∈ s.faces, face.Proper 0 s.vertices.length)
    (points : List (Point α)) (colour : Colour) :
    MadeOf (List.replicate points.length ⟨s.vertices.length, s.faces.length, colour⟩)
      ((copies s points).painted colour) where
  vertices := by
    show (points.flatMap fun p => s.vertices.map (· + p)).length = _
    rw [length_flatMap_const fun p _ => List.length_map _, bodyVertices_replicate]
  faces := by
    have hrepeat := composed_repeat proper colour points 0
    rw [Nat.zero_mul] at hrepeat
    exact hrepeat

end Mesh

/-! ### Spheres -/

namespace Sphere

/-- The faces of a sphere that has been divided once. -/
theorem proper_divideFaces :
    ∀ face ∈ divideFaces 12 bodyFaces, face.Proper 0 42 := by decide +kernel

theorem length_divideFaces : (divideFaces 12 bodyFaces).length = 80 := by decide +kernel

theorem length_edges : (edges 12 bodyFaces).length = 30 := by decide +kernel

variable (radius : α)

theorem faces_once : (sphere radius markerDivisions).faces = divideFaces 12 bodyFaces := rfl

theorem length_vertices_once : (sphere radius markerDivisions).vertices.length = 42 := by
  show ((divideVertices bodyVertices bodyFaces).map (atRadius radius)).length = 42
  have hedges : (edges (bodyVertices : List (Point α)).toArray.size bodyFaces).length = 30 :=
    length_edges
  simp only [divideVertices, List.length_map, List.length_append, hedges]
  rfl

theorem length_faces_once : (sphere radius markerDivisions).faces.length = 80 := length_divideFaces

theorem proper_once : ∀ face ∈ (sphere radius markerDivisions).faces,
    face.Proper 0 (sphere radius markerDivisions).vertices.length := by
  rw [length_vertices_once, faces_once]
  exact proper_divideFaces

end Sphere

/-! ### The vase -/

namespace Vase

theorem length_faces (sections : Nat) : (faces sections).length = 4 * sections := by
  simp only [faces, List.length_append, List.length_map, List.length_range, Ring.length_wall]
  omega

/-- The wall and the two caps of a vase stay among its rings and centres. -/
theorem proper_faces {sections : Nat} (h : 2 ≤ sections) :
    ∀ face ∈ faces sections, face.Proper 0 (2 * sections + 2) := by
  intro face hface
  simp only [faces, List.mem_append, List.mem_map, List.mem_range] at hface
  rcases hface with (hwall | ⟨i, hi, rfl⟩) | ⟨i, hi, rfl⟩
  · exact (Ring.proper_wall h face hwall).mono (by omega)
  · have hlt := Ring.next_lt (by omega : 0 < sections) i
    have hne := Ring.next_ne h hi
    rw [Face.proper_iff]
    simp only [bottomFace]
    omega
  · have hlt := Ring.next_lt (by omega : 0 < sections) i
    have hne := Ring.next_ne h hi
    rw [Face.proper_iff]
    simp only [topFace]
    omega

end Vase

namespace Mesh

/-- The vase is one body. -/
theorem madeOf_vase (v : Vase.Profile α) {sections : Nat} (h : 2 ≤ sections) (colour : Colour) :
    MadeOf [⟨2 * sections + 2, 4 * sections, colour⟩] ((v.surface sections).painted colour) where
  vertices := by
    show (Vase.ring (Ring.turns sections) v.bottomRadius v.floor ++
      Vase.ring (Ring.turns sections) v.topRadius v.rim ++
        ([⟨0.0, v.floor, 0.0⟩, ⟨0.0, v.rim, 0.0⟩] : List (Point α))).length = _
    simp only [Vase.ring, List.length_append, List.length_map, Ring.length_turns, List.length_cons,
      List.length_nil, bodyVertices_cons, bodyVertices_nil]
    omega
  faces := by
    refine ⟨(Vase.faces sections).map fun face => (face, colour), [], ?_, ?_, ?_, rfl⟩
    · rw [List.append_nil]
      rfl
    · rw [List.length_map, Vase.length_faces]
    · intro face hface
      obtain ⟨own, hown, rfl⟩ := List.mem_map.1 hface
      exact ⟨Vase.proper_faces h own hown, rfl⟩

end Mesh

/-- The measures of a vase are good, and these are its rings. -/
structure Vase.Good (v : Vase α) (profile : Vase.Profile α) : Prop where
  top : v.topRadius.positive = true
  bottom : v.bottomRadius.positive = true
  height : v.height.positive = true
  profile : v.profile? = some profile

namespace Vase.Good

variable {v : Vase α} {profile : Vase.Profile α} (good : v.Good profile)

include good

theorem grounded : v.grounded = true := by
  have hprofile := good.profile
  simp only [Vase.profile?, Option.bind_eq_bind, Option.bind_eq_some_iff] at hprofile
  obtain ⟨half, hhalf, center, hcenter, bottom, hbottom, -⟩ := hprofile
  rw [Vase.grounded, hhalf, hcenter, hbottom]
  rfl

/-- A vase with good measures is made if its vertices are counted. -/
theorem made_iff {sections : Nat} (many : 3 ≤ sections) (counter : Ring.Counter) (mesh : Mesh α) :
    vase v (Int.ofNat sections) counter = .ok mesh ↔
      counter.Counts (Int.ofNat sections) ∧
        mesh = (profile.surface sections).painted Colour.vase := by
  have hmany : ¬ Int.ofNat sections < 3 := by
    rw [Int.ofNat_eq_natCast]
    omega
  unfold vase Ring.Counter.Counts
  rw [good.top, good.bottom, good.height, if_neg (by decide), if_neg hmany, good.profile,
    good.grounded]
  cases hcount : counter.count (Int.ofNat sections) with
  | error fault => exact ⟨nofun, fun h => nomatch h.1⟩
  | ok n =>
    rcases counter.faithful hcount with hall | rfl
    · obtain rfl : n = sections := hall
      have hsome : (decide (n = 0) && true) = false := by
        rw [Bool.and_true, decide_eq_false_iff_not]
        omega
      simp only [hsome, Bool.false_eq_true, if_false, Int.toNat_natCast, Int.ofNat_eq_natCast,
        true_and, Except.ok.injEq]
      exact eq_comm
    · refine ⟨nofun, fun h => ?_⟩
      have hnone : 0 = sections := Except.ok.inj h.1
      omega

end Vase.Good

/-! ### Parts with good measures -/

/-- A measure that is not beyond all scalars. -/
def Quantity.Reckoned (q : Quantity α) : Prop := q.value?.isSome = true

theorem Quantity.reckoned_scalar (x : α) : (Quantity.scalar x).Reckoned := rfl

section Tubes

variable {segments : List (Segment α)} {radius : Quantity α} {value : α} (some : segments ≠ [])
  (positive : radius.positive = true) (hvalue : radius.value? = .some value)

include some positive hvalue

/-- What can still go wrong with good measures is the number of sections. -/
theorem branchTubes_eq (counter : Ring.Counter) {sections : Int} (many : 3 ≤ sections) :
    branchTubes segments radius sections counter =
      match counter.count sections with
      | .error fault => .error (.count fault)
      | .ok count =>
        if count = 0 && !Ring.isWord sections then .error .outOfRange
        else .ok ((tubes value count segments).painted Colour.branch) := by
  have hempty : segments.isEmpty = false := by simpa using some
  unfold branchTubes
  rw [positive, if_neg (by decide), if_neg (Int.not_lt.2 many), hempty, if_neg (by decide)]
  cases counter.count sections with
  | error fault => rfl
  | ok count => simp only [hvalue]

/-- How many vertices the rings of tubes have that are made. -/
theorem exists_count_of_branchTubes {counter : Ring.Counter} {sections : Int} (many : 3 ≤ sections)
    {mesh : Mesh α} (h : branchTubes segments radius sections counter = .ok mesh) :
    ∃ count, counter.count sections = .ok count ∧
      mesh = (tubes value count segments).painted Colour.branch := by
  rw [branchTubes_eq some positive hvalue counter many] at h
  cases hcount : counter.count sections with
  | error fault =>
    rw [hcount] at h
    cases h
  | ok count =>
    rw [hcount] at h
    refine ⟨count, rfl, ?_⟩
    dsimp only at h
    split at h
    · cases h
    · exact (Except.ok.inj h).symm

theorem eq_tubes_of_branchTubes {counter : Ring.Counter} {sections : Int} (many : 3 ≤ sections)
    {mesh : Mesh α} (h : branchTubes segments radius sections counter = .ok mesh) :
    ∃ count, mesh = (tubes value count segments).painted Colour.branch := by
  obtain ⟨count, -, hmesh⟩ := exists_count_of_branchTubes some positive hvalue many h
  exact ⟨count, hmesh⟩

/-- The tubes of branches are made if the vertices of a ring are counted. -/
theorem branchTubes_of_counts {counter : Ring.Counter} {count : Nat} (many : 3 ≤ count)
    (counted : counter.Counts (Int.ofNat count)) :
    branchTubes segments radius (Int.ofNat count) counter =
      .ok ((tubes value count segments).painted Colour.branch) := by
  have hmany : 3 ≤ Int.ofNat count := by
    rw [Int.ofNat_eq_natCast]
    omega
  have hsome : ¬(decide (count = 0) && !Ring.isWord (Int.ofNat count)) = true := by
    rw [decide_eq_false (by omega), Bool.false_and]
    exact Bool.false_ne_true
  have hcount : counter.count (Int.ofNat count) = .ok count := counted
  rw [branchTubes_eq some positive hvalue counter hmany, hcount]
  exact if_neg hsome

end Tubes

section Good

variable {radius : Quantity α} (positive : radius.positive = true)

include positive

/-- The tubes of the branches. -/
theorem branchTubes_of_positive {segments : List (Segment α)}
    (reckoned : segments ≠ [] → radius.Reckoned) :
    ∃ mesh, branchTubes segments radius (Int.ofNat branchSections) = .ok mesh ∧
      mesh.MadeOf (List.replicate segments.length ⟨12, 12, Colour.branch⟩) ∧
      (mesh.faces = [] → mesh = Mesh.empty) := by
  cases segments with
  | nil =>
    refine ⟨Mesh.empty, ?_, Mesh.madeOf_empty, fun _ => rfl⟩
    rw [branchTubes, positive]
    rfl
  | cons s segments =>
    obtain ⟨value, hvalue⟩ := Option.isSome_iff_exists.1 (reckoned (List.cons_ne_nil _ _))
    have hmade := Mesh.madeOf_tubes value (by decide : 2 ≤ branchSections) (s :: segments)
      Colour.branch
    refine ⟨(tubes value branchSections (s :: segments)).painted Colour.branch, ?_, hmade, ?_⟩
    · exact branchTubes_of_counts (List.cons_ne_nil _ _) positive hvalue (by decide)
        (Ring.Counter.counts_machine (by decide))
    · intro hnone
      have hlen := hmade.length_faces
      rw [hnone] at hlen
      simp [branchSections] at hlen

/-- The spheres of the leaves or of the flowers. -/
theorem markers_of_positive {points : List (Point α)} (reckoned : points ≠ [] → radius.Reckoned)
    (colour : Colour) :
    ∃ mesh, markers points radius markerDivisions (.ok colour) = .ok mesh ∧
      mesh.MadeOf (List.replicate points.length ⟨42, 80, colour⟩) ∧
      (mesh.faces = [] → mesh = Mesh.empty) := by
  unfold markers
  rw [positive]
  cases points with
  | nil => exact ⟨Mesh.empty, rfl, Mesh.madeOf_empty, fun _ => rfl⟩
  | cons p points =>
    obtain ⟨value, hvalue⟩ := Option.isSome_iff_exists.1 (reckoned (List.cons_ne_nil _ _))
    have hmade := Mesh.madeOf_copies (Sphere.proper_once value) (p :: points) colour
    rw [Sphere.length_vertices_once, Sphere.length_faces_once] at hmade
    refine ⟨(copies (sphere value markerDivisions) (p :: points)).painted colour, ?_, hmade, ?_⟩
    · rw [hvalue]
      rfl
    · intro hnone
      have hlen := hmade.length_faces
      rw [hnone] at hlen
      simp at hlen

end Good

end Parts
end Arbor
