/-
# Meshes made at once

The tubes of many segments, and the spheres of many points, are made at once.
They might as well be made one by one, or in two lots: the second lot comes
behind the first one, with the places its faces name shifted by the vertices in
front (`batch_append`, `batch_singles`). It is so for every outcome. As long as
there are no items nothing can go wrong; what can go wrong with some does not
depend on which ones there are.

Key definitions: `Mesh.followed`, `batch`, `Additive`, `Tube.maker`,
`Sphere.maker`.
Key theorems: `tubes_append`, `copies_append`, `batch_append`, `batch_singles`,
`meshes_in_lots`.
-/
import Arbor.Proofs.Mesh.Repeated

namespace Arbor

section Appended

variable {α : Type}

/-- A mesh and one behind it, whose faces name their corners `count` places
later. -/
def Mesh.followed (m : Mesh α) (count : Nat) (n : Mesh α) : Mesh α :=
  ⟨m.vertices ++ n.vertices,
    m.faces ++ n.faces.map fun (face, colour) => (face.shift count, colour)⟩

theorem Mesh.append_eq_followed (m n : Mesh α) : m.append n = m.followed m.vertices.length n := rfl

theorem Surface.painted_append (s t : Surface α) (colour : Colour) :
    (s.append t).painted colour = (s.painted colour).append (t.painted colour) := by
  have hfaces : (s.faces ++ t.faces.map (Face.shift s.vertices.length)).map (fun face =>
      (face, colour)) = s.faces.map (fun face => (face, colour)) ++
        (t.faces.map fun face => (face, colour)).map fun (face, colour) =>
          (face.shift s.vertices.length, colour) := by
    rw [List.map_append, List.map_map, List.map_map]
    rfl
  exact congrArg (Mesh.mk _) hfaces

variable [Scalar α]

/-- More tubes come behind the first ones. -/
theorem tubes_append (radius : α) (sections : Nat) (a b : List (Segment α)) :
    tubes radius sections (a ++ b) =
      (tubes radius sections a).append (tubes radius sections b) := by
  have hfaces : (tubes radius sections (a ++ b)).faces = (tubes radius sections a).faces ++
      (tubes radius sections b).faces.map
        (Face.shift (tubes radius sections a).vertices.length) := by
    rw [faces_tubes, faces_tubes, faces_tubes, List.length_append, repeated_add,
      length_vertices_tubes]
  exact congrArg₂ Surface.mk List.flatMap_append hfaces

/-- More copies come behind the first ones. -/
theorem copies_append (s : Surface α) (p q : List (Point α)) :
    copies s (p ++ q) = (copies s p).append (copies s q) := by
  have hfaces : (copies s (p ++ q)).faces = (copies s p).faces ++
      (copies s q).faces.map (Face.shift (copies s p).vertices.length) := by
    rw [faces_copies, faces_copies, faces_copies, List.length_append, repeated_add,
      length_vertices_copies, Nat.mul_comm]
  exact congrArg₂ Surface.mk List.flatMap_append hfaces

end Appended

/-! ### Lots of items -/

section Batch

variable {α β : Type}

/-- The mesh of some items, which nothing is needed for if there are none. -/
def batch (maker : Except Mesh.Fault (List β → Mesh α)) (items : List β) :
    Except Mesh.Fault (Mesh α) :=
  if items.isEmpty then .ok Mesh.empty else maker.map (· items)

/-- A way to make a mesh of items that puts what it makes of more items behind
what it makes of the first ones, `size` vertices being in front for each. -/
structure Additive (size : Nat) (make : List β → Mesh α) : Prop where
  nil : make [] = Mesh.empty
  append : ∀ a b, make (a ++ b) = (make a).append (make b)
  shift : ∀ a b, (make a).append (make b) = (make a).followed (size * a.length) (make b)

variable {maker : Except Mesh.Fault (List β → Mesh α)} {size : Nat}

@[simp] theorem batch_nil : batch maker [] = .ok Mesh.empty := rfl

theorem batch_ok {make : List β → Mesh α} (additive : Additive size make) (items : List β) :
    batch (.ok make) items = .ok (make items) := by
  cases items with
  | nil => rw [batch_nil, additive.nil]
  | cons item items => rfl

section

variable (h : ∀ make, maker = .ok make → Additive size make)

include h

/-- Two lots at once are one behind the other. -/
theorem batch_append (a b : List β) :
    batch maker (a ++ b) = (do
      let m ← batch maker a
      let n ← batch maker b
      pure (m.append n)) := by
  cases maker with
  | ok make =>
    have additive := h make rfl
    rw [batch_ok additive, batch_ok additive, batch_ok additive, additive.append]
    rfl
  | error fault =>
    cases a with
    | nil =>
      rw [List.nil_append, batch_nil]
      cases hb : batch (.error fault : Except Mesh.Fault (List β → Mesh α)) b with
      | ok n => exact congrArg Except.ok (Mesh.empty_append n).symm
      | error _ => rfl
    | cons item items => rfl

/-- By how much the second lot is shifted. -/
theorem batch_append_followed (a b : List β) :
    batch maker (a ++ b) = (do
      let m ← batch maker a
      let n ← batch maker b
      pure (m.followed (size * a.length) n)) := by
  rw [batch_append h]
  cases maker with
  | ok make =>
    have additive := h make rfl
    rw [batch_ok additive, batch_ok additive]
    exact congrArg Except.ok (additive.shift a b)
  | error fault =>
    cases a with
    | nil => simp only [batch_nil, List.length_nil, Nat.mul_zero, Mesh.append_eq_followed]; rfl
    | cons item items => rfl

/-- Items at once are the same items one by one. -/
theorem batch_singles (items : List β) :
    batch maker items = (do
      let parts ← items.mapM fun item => batch maker [item]
      pure (parts.foldr Mesh.append Mesh.empty)) := by
  induction items with
  | nil => rfl
  | cons item items ih =>
    rw [← List.singleton_append, batch_append h, ih, List.singleton_append, List.mapM_cons]
    simp only [bind_assoc, pure_bind, List.foldr_cons]

end

end Batch

/-! ### Tubes and spheres -/

section Makers

variable {α : Type} [Scalar α]

/-- How tubes are made, or why not, once there is a segment. -/
def Tube.maker (radius : Quantity α) (sections : Int) (counter : Ring.Counter) :
    Except Mesh.Fault (List (Segment α) → Mesh α) :=
  match counter.count sections with
  | .error fault => .error (.count fault)
  | .ok count =>
    match radius.value? with
    | none => .error .outOfRange
    | some value =>
      if count = 0 && !Ring.isWord sections then .error .outOfRange
      else .ok fun segments => (tubes value count segments).painted Colour.branch

/-- How spheres are made, or why not, once there is a point. -/
def Sphere.maker (radius : Quantity α) (divisions : Int) (colour : Except Colour.Fault Colour) :
    Except Mesh.Fault (List (Point α) → Mesh α) :=
  match radius.value? with
  | none => .error .outOfRange
  | some value =>
    match colour with
    | .error fault => .error (.colour fault)
    | .ok colour => .ok fun points => (copies (sphere value divisions) points).painted colour

variable {radius : Quantity α}

theorem branchTubes_eq_batch (positive : radius.positive = true) {sections : Int}
    (many : 3 ≤ sections) (counter : Ring.Counter) (segments : List (Segment α)) :
    branchTubes segments radius sections counter =
      batch (Tube.maker radius sections counter) segments := by
  unfold branchTubes batch
  rw [positive, if_neg (by decide), if_neg (Int.not_lt.2 many)]
  by_cases hnone : segments.isEmpty = true
  · rw [if_pos hnone, if_pos hnone]
  · rw [if_neg hnone, if_neg hnone, Tube.maker]
    cases counter.count sections with
    | error fault => rfl
    | ok count =>
      cases radius.value? with
      | none => rfl
      | some value =>
        by_cases hnone : (count = 0 && !Ring.isWord sections) = true
        · simp only [if_pos hnone]
          rfl
        · simp only [if_neg hnone]
          rfl

theorem markers_eq_batch (positive : radius.positive = true) (divisions : Int)
    (colour : Except Colour.Fault Colour) (points : List (Point α)) :
    markers points radius divisions colour =
      batch (Sphere.maker radius divisions colour) points := by
  unfold markers batch
  rw [positive, if_neg (by decide)]
  by_cases hnone : points.isEmpty = true
  · rw [if_pos hnone, if_pos hnone]
  · rw [if_neg hnone, if_neg hnone, Sphere.maker]
    cases radius.value? with
    | none => rfl
    | some value => cases colour <;> rfl

/-- Where rings are counted as having no vertices, there are no faces to be
shifted. -/
theorem Tube.additive_maker {sections : Int} {counter : Ring.Counter}
    (make : List (Segment α) → Mesh α) (h : maker radius sections counter = .ok make) :
    Additive (2 * sections.toNat) make := by
  unfold maker at h
  cases hcount : counter.count sections with
  | error fault =>
    rw [hcount] at h
    cases h
  | ok count =>
    cases hvalue : radius.value? with
    | none =>
      simp only [hcount, hvalue] at h
      cases h
    | some value =>
      simp only [hcount, hvalue] at h
      split at h
      · cases h
      · obtain rfl := Except.ok.inj h
        refine ⟨rfl, fun a b => ?_, fun a b => ?_⟩
        · rw [tubes_append, Surface.painted_append]
        · rw [Mesh.append_eq_followed]
          rcases counter.faithful hcount with rfl | rfl
          · exact congrArg (Mesh.followed _ · _) (length_vertices_tubes value _ a)
          · have hfaces : ((tubes value 0 b).painted Colour.branch).faces = [] := by
              rw [← List.length_eq_zero_iff, Surface.painted, List.length_map, length_faces_tubes,
                Nat.mul_zero, Nat.zero_mul]
            simp only [Mesh.followed, hfaces, List.map_nil]

theorem Sphere.additive_maker {value : α} (hvalue : radius.value? = some value) {divisions : Int}
    {colour : Except Colour.Fault Colour} (make : List (Point α) → Mesh α)
    (h : maker radius divisions colour = .ok make) :
    Additive (sphere value divisions).vertices.length make := by
  unfold maker at h
  rw [hvalue] at h
  cases colour with
  | error fault => cases h
  | ok colour =>
    obtain rfl := Except.ok.inj h
    refine ⟨rfl, fun p q => ?_, fun p q => ?_⟩
    · rw [copies_append, Surface.painted_append]
    · rw [Mesh.append_eq_followed, Nat.mul_comm]
      exact congrArg (Mesh.followed _ · _) (length_vertices_copies _ p)

/-- The vertices of spheres are those of the copies of one sphere. -/
theorem vertices_of_markers (positive : radius.positive = true) {value : α}
    (hvalue : radius.value? = some value) {points : List (Point α)} (some : points ≠ [])
    {divisions : Int} {colour : Except Colour.Fault Colour} {mesh : Mesh α}
    (h : markers points radius divisions colour = .ok mesh) :
    mesh.vertices = (copies (sphere value divisions) points).vertices := by
  have hsome : ¬points.isEmpty = true := by simpa using some
  rw [markers_eq_batch positive, batch, if_neg hsome, Sphere.maker, hvalue] at h
  cases colour with
  | error fault => cases h
  | ok colour =>
    obtain rfl := Except.ok.inj h
    rfl

section Made

variable {value : α} (hvalue : radius.value? = some value)

include hvalue

/-- Tubes are made if the vertices of a ring are counted. -/
theorem exists_branchTubes (positive : radius.positive = true) {sections : Int}
    (many : 3 ≤ sections) {counter : Ring.Counter} (counted : counter.Counts sections)
    (segments : List (Segment α)) :
    ∃ mesh, branchTubes segments radius sections counter = .ok mesh := by
  obtain ⟨count, rfl⟩ := Int.eq_ofNat_of_zero_le (by omega : 0 ≤ sections)
  exact ⟨_, branchTubes_of_counts_or_nil positive hvalue (by omega) fun _ => counted⟩

/-- Spheres in a good colour are made. -/
theorem exists_markers (positive : radius.positive = true) (divisions : Int) (colour : Colour)
    (points : List (Point α)) :
    ∃ mesh, markers points radius divisions (.ok colour) = .ok mesh := by
  have hmaker : Sphere.maker radius divisions (.ok colour) =
      .ok fun points => (copies (sphere value divisions) points).painted colour := by
    rw [Sphere.maker, hvalue]
  rw [markers_eq_batch positive, hmaker]
  exact ⟨_, batch_ok (Sphere.additive_maker hvalue _ hmaker) points⟩

end Made

/-- **All at once is one by one.** Two lists of segments give the tubes of the
first and behind them those of the second, whose faces are shifted by the
vertices of two rings for every segment in front, and two lists of points give
spheres in the same way; each sphere is the one about the origin moved to its
point. No items give the mesh without anything, so a mesh is what is made of
its items one by one. This holds of all outcomes. There is a mesh of tubes
whenever the vertices of a ring are counted, by a counter without limit for every
number of sections, and one of spheres if the colour is good. -/
theorem meshes_in_lots {radius : Quantity α} (positive : radius.positive = true) {value : α}
    (hvalue : radius.value? = some value) :
    (∀ (sections : Int) (counter : Ring.Counter), 3 ≤ sections →
      branchTubes ([] : List (Segment α)) radius sections counter = .ok Mesh.empty ∧
      (∀ a b : List (Segment α), branchTubes (a ++ b) radius sections counter = (do
        let m ← branchTubes a radius sections counter
        let n ← branchTubes b radius sections counter
        pure (m.followed (2 * sections.toNat * a.length) n))) ∧
      (∀ segments : List (Segment α), branchTubes segments radius sections counter = (do
        let parts ← segments.mapM fun s => branchTubes [s] radius sections counter
        pure (parts.foldr Mesh.append Mesh.empty))) ∧
      (counter.Counts sections → ∀ segments : List (Segment α),
        ∃ mesh, branchTubes segments radius sections counter = .ok mesh) ∧
      ∀ segments : List (Segment α), ∃ mesh,
        branchTubes segments radius sections .unlimited = .ok mesh) ∧
    ∀ (divisions : Int) (colour : Except Colour.Fault Colour),
      let ball := sphere value divisions
      markers [] radius divisions colour = .ok Mesh.empty ∧
      (∀ p q, markers (p ++ q) radius divisions colour = (do
        let m ← markers p radius divisions colour
        let n ← markers q radius divisions colour
        pure (m.followed (ball.vertices.length * p.length) n))) ∧
      (∀ points, markers points radius divisions colour = (do
        let parts ← points.mapM fun p => markers [p] radius divisions colour
        pure (parts.foldr Mesh.append Mesh.empty))) ∧
      (∀ points mesh, markers points radius divisions colour = .ok mesh →
        ∀ k p, points[k]? = some p →
          block ball.vertices.length k mesh.vertices = ball.vertices.map (· + p)) ∧
      ∀ shade, colour = .ok shade → ∀ points,
        ∃ mesh, markers points radius divisions colour = .ok mesh := by
  refine ⟨fun sections counter many => ?_, fun divisions colour => ?_⟩
  · have hbatch := branchTubes_eq_batch positive many counter
    have additive : ∀ make, Tube.maker radius sections counter = .ok make →
        Additive (2 * sections.toNat) make := Tube.additive_maker
    refine ⟨by rw [hbatch, batch_nil], fun a b => ?_, fun segments => ?_,
      fun counted => exists_branchTubes hvalue positive many counted,
      exists_branchTubes hvalue positive many (Ring.Counter.counts_unlimited sections)⟩
    · rw [hbatch, hbatch, hbatch]
      exact batch_append_followed additive a b
    · simp only [hbatch]
      exact batch_singles additive segments
  · have hbatch := markers_eq_batch positive divisions colour
    have additive : ∀ make, Sphere.maker radius divisions colour = .ok make →
        Additive (sphere value divisions).vertices.length make := Sphere.additive_maker hvalue
    refine ⟨by rw [hbatch, batch_nil], fun p q => ?_, fun points => ?_,
      fun points mesh hmesh k p hp => ?_, ?_⟩
    · rw [hbatch, hbatch, hbatch]
      exact batch_append_followed additive p q
    · simp only [hbatch]
      exact batch_singles additive points
    · have some : points ≠ [] := by
        rintro rfl
        cases hp
      rw [vertices_of_markers positive hvalue some hmesh]
      exact block_vertices_copies _ hp
    · rintro shade rfl points
      exact exists_markers hvalue positive divisions shade points

/-- Two branches and the leaves at their tips. -/
theorem meshes_in_lots_twig :
    let radius : Quantity Float := .scalar 0.08
    let s : Segment Float := ⟨Point.origin, ⟨0.0, 0.5, 0.0⟩⟩
    let t : Segment Float := ⟨s.finish, ⟨0.5, 0.5, 0.0⟩⟩
    radius.positive = true ∧ radius.value? = some 0.08 ∧ (3 : Int) ≤ 6 ∧
      branchTubes [s, t] radius 6 = (do
        let m ← branchTubes [s] radius 6
        let n ← branchTubes [t] radius 6
        pure (m.followed 12 n)) ∧
      ∃ mesh, markers [s.finish, t.finish] radius 1 (.ok Colour.leaf) = .ok mesh ∧
        block 42 1 mesh.vertices = (sphere 0.08 1).vertices.map (· + t.finish) := by
  intro radius s t
  have positive : radius.positive = true := by decide
  have hvalue : radius.value? = some 0.08 := rfl
  obtain ⟨htubes, hspheres⟩ := meshes_in_lots positive hvalue
  obtain ⟨-, hlots, -, -⟩ := htubes 6 .machine (by decide)
  obtain ⟨-, -, -, hblocks, hmade⟩ := hspheres 1 (.ok Colour.leaf)
  obtain ⟨mesh, hmesh⟩ := hmade Colour.leaf rfl [s.finish, t.finish]
  refine ⟨positive, hvalue, by decide, hlots [s] [t], mesh, hmesh, ?_⟩
  rw [← Sphere.length_vertices_once (0.08 : Float)]
  exact hblocks _ mesh hmesh 1 t.finish rfl

end Makers
end Arbor
