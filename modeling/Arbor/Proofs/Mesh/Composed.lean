/-
# Meshes made of bodies

A mesh of a scene is made of bodies, such as a tube or a sphere, one after
the other: each has a block of vertices, a run of faces in one colour, and no
face that leaves the block. `Mesh.MadeOf` says so for a list of bodies. Meshes
put one after the other are made of the bodies of both, since the second
block of faces is shifted by what is in front of it.

Key definitions: `Face.Proper`, `Body`, `Composed`, `Mesh.MadeOf`.
Key theorems: `Composed.append`, `Composed.shift`, `Composed.colours`,
`Mesh.MadeOf.append`, `Mesh.join_eq_foldl`, `Mesh.join_concat`.
-/
import Mathlib.Algebra.GroupWithZero.Nat
import Arbor.Mesh.Basic

namespace Arbor

/-! ### Faces -/

/-- Three different corners, all among the `count` vertices from `start` on. -/
structure Face.Proper (start count : Nat) (face : Face Nat) : Prop where
  ab : face.a ≠ face.b
  bc : face.b ≠ face.c
  ca : face.c ≠ face.a
  a : start ≤ face.a ∧ face.a < start + count
  b : start ≤ face.b ∧ face.b < start + count
  c : start ≤ face.c ∧ face.c < start + count

theorem Face.proper_iff (start count : Nat) (face : Face Nat) :
    face.Proper start count ↔
      (face.a ≠ face.b ∧ face.b ≠ face.c ∧ face.c ≠ face.a) ∧
      (start ≤ face.a ∧ face.a < start + count) ∧ (start ≤ face.b ∧ face.b < start + count) ∧
        (start ≤ face.c ∧ face.c < start + count) :=
  ⟨fun h => ⟨⟨h.ab, h.bc, h.ca⟩, h.a, h.b, h.c⟩,
    fun ⟨⟨hab, hbc, hca⟩, ha, hb, hc⟩ => ⟨hab, hbc, hca, ha, hb, hc⟩⟩

instance (start count : Nat) (face : Face Nat) : Decidable (face.Proper start count) :=
  decidable_of_iff _ (Face.proper_iff start count face).symm

theorem Face.Proper.shift {start count : Nat} {face : Face Nat} (h : face.Proper start count)
    (n : Nat) : (face.shift n).Proper (n + start) count := by
  obtain ⟨hab, hbc, hca, ha, hb, hc⟩ := h
  rw [Face.proper_iff]
  simp only [Face.shift, Face.map]
  omega

theorem Face.Proper.mono {start count count' : Nat} (hle : count ≤ count') {face : Face Nat}
    (h : face.Proper start count) : face.Proper start count' := by
  obtain ⟨hab, hbc, hca, ha, hb, hc⟩ := h
  exact ⟨hab, hbc, hca, ⟨ha.1, by omega⟩, ⟨hb.1, by omega⟩, ⟨hc.1, by omega⟩⟩

/-! ### Bodies -/

/-- A part of a mesh that no face leaves: how many vertices and faces it has,
and the colour of all its faces. -/
structure Body where
  vertices : Nat
  faces : Nat
  colour : Colour

/-- The faces are those of the bodies, in order, the first of which has its
vertices from `start` on. -/
def Composed : List Body → Nat → List (Face Nat × Colour) → Prop
  | [], _, faces => faces = []
  | body :: others, start, faces => ∃ own rest, faces = own ++ rest ∧ own.length = body.faces ∧
      (∀ face ∈ own, face.1.Proper start body.vertices ∧ face.2 = body.colour) ∧
      Composed others (start + body.vertices) rest

/-- How many vertices bodies have. -/
def bodyVertices (bodies : List Body) : Nat := (bodies.map Body.vertices).sum

@[simp] theorem bodyVertices_nil : bodyVertices [] = 0 := rfl

@[simp] theorem bodyVertices_cons (body : Body) (bodies : List Body) :
    bodyVertices (body :: bodies) = body.vertices + bodyVertices bodies := by
  simp [bodyVertices]

@[simp] theorem bodyVertices_append (bodies others : List Body) :
    bodyVertices (bodies ++ others) = bodyVertices bodies + bodyVertices others := by
  simp [bodyVertices]

@[simp] theorem bodyVertices_replicate (n : Nat) (body : Body) :
    bodyVertices (List.replicate n body) = n * body.vertices := by
  simp [bodyVertices]

theorem Composed.append {others : List Body} {later : List (Face Nat × Colour)} :
    ∀ {bodies : List Body} {start : Nat} {faces : List (Face Nat × Colour)},
      Composed bodies start faces → Composed others (start + bodyVertices bodies) later →
        Composed (bodies ++ others) start (faces ++ later)
  | [], start, faces, h, hlater => by
    have hnil : faces = [] := h
    subst hnil
    exact hlater
  | body :: bodies, start, faces, ⟨own, rest, hfaces, hlen, hown, hrest⟩, hlater => by
    rw [bodyVertices_cons, ← Nat.add_assoc] at hlater
    refine ⟨own, rest ++ later, ?_, hlen, hown, hrest.append hlater⟩
    rw [hfaces, List.append_assoc]

/-- Behind `n` more vertices. -/
theorem Composed.shift (n : Nat) :
    ∀ {bodies : List Body} {start : Nat} {faces : List (Face Nat × Colour)},
      Composed bodies start faces →
        Composed bodies (n + start) (faces.map fun (face, colour) => (face.shift n, colour))
  | [], _, faces, h => by
    have hnil : faces = [] := h
    subst hnil
    exact rfl
  | body :: bodies, start, faces, ⟨own, rest, hfaces, hlen, hown, hrest⟩ => by
    refine ⟨own.map fun (face, colour) => (face.shift n, colour),
      rest.map fun (face, colour) => (face.shift n, colour), ?_, ?_, ?_, ?_⟩
    · rw [hfaces, List.map_append]
    · rw [List.length_map, hlen]
    · intro face hface
      obtain ⟨old, hold, rfl⟩ := List.mem_map.1 hface
      exact ⟨(hown old hold).1.shift n, (hown old hold).2⟩
    · rw [Nat.add_assoc]
      exact hrest.shift n

/-- The colours come in runs, one for each body. -/
theorem Composed.colours :
    ∀ {bodies : List Body} {start : Nat} {faces : List (Face Nat × Colour)},
      Composed bodies start faces →
        faces.map (·.2) = bodies.flatMap fun body => List.replicate body.faces body.colour
  | [], _, faces, h => by
    have hnil : faces = [] := h
    subst hnil
    rfl
  | body :: bodies, start, faces, ⟨own, rest, hfaces, hlen, hown, hrest⟩ => by
    have hcolours : own.map (·.2) = List.replicate body.faces body.colour := by
      rw [List.eq_replicate_iff]
      refine ⟨by rw [List.length_map, hlen], fun colour hcolour => ?_⟩
      obtain ⟨face, hface, rfl⟩ := List.mem_map.1 hcolour
      exact (hown face hface).2
    rw [hfaces, List.map_append, hcolours, hrest.colours, List.flatMap_cons]

/-! ### Meshes -/

namespace Mesh

variable {α : Type}

@[simp] theorem append_empty (m : Mesh α) : m.append empty = m := by
  simp [append, empty]

@[simp] theorem empty_append (m : Mesh α) : empty.append m = m := by
  simp [append, empty]

/-- The mesh consists of the bodies, one after the other. -/
structure MadeOf (bodies : List Body) (m : Mesh α) : Prop where
  vertices : m.vertices.length = bodyVertices bodies
  faces : Composed bodies 0 m.faces

theorem madeOf_empty : MadeOf [] (empty : Mesh α) := ⟨rfl, rfl⟩

theorem MadeOf.append {bodies others : List Body} {m n : Mesh α} (hm : MadeOf bodies m)
    (hn : MadeOf others n) : MadeOf (bodies ++ others) (m.append n) where
  vertices := by
    show (m.vertices ++ n.vertices).length = bodyVertices (bodies ++ others)
    rw [List.length_append, hm.vertices, hn.vertices, bodyVertices_append]
  faces := by
    have hshifted := hn.faces.shift m.vertices.length
    rw [hm.vertices, Nat.add_zero, ← Nat.zero_add (bodyVertices bodies)] at hshifted
    have happended := hm.faces.append hshifted
    rw [Nat.zero_add, ← hm.vertices] at happended
    exact happended

/-- How many faces a mesh has that is made of bodies. -/
theorem MadeOf.length_faces {bodies : List Body} {m : Mesh α} (h : MadeOf bodies m) :
    m.faces.length = (bodies.map Body.faces).sum := by
  have hcolours := congrArg List.length h.faces.colours
  rw [List.length_map, List.length_flatMap] at hcolours
  simpa using hcolours

/-- Parts without faces may stay when they have no vertices either. -/
theorem join_eq_foldl {parts : List (Mesh α)}
    (h : ∀ part ∈ parts, part.faces = [] → part = empty) :
    join parts = parts.foldl append empty := by
  have hfold : ∀ (parts : List (Mesh α)) (m : Mesh α),
      (∀ part ∈ parts, part.faces = [] → part = empty) →
      (parts.filter fun part => !part.faces.isEmpty).foldl append m = parts.foldl append m := by
    intro parts
    induction parts with
    | nil => exact fun _ _ => rfl
    | cons part parts ih =>
      intro m h
      have hrest := fun other hother => h other (List.mem_cons_of_mem part hother)
      by_cases hnone : part.faces = []
      · have hempty := h part List.mem_cons_self hnone
        rw [List.filter_cons_of_neg (by simp [hnone]), List.foldl_cons, hempty, append_empty]
        exact ih m hrest
      · rw [List.filter_cons_of_pos (by simp [hnone]), List.foldl_cons, List.foldl_cons]
        exact ih (m.append part) hrest
  exact hfold parts empty h

/-- A last part with faces comes after all the others. -/
theorem join_concat (parts : List (Mesh α)) {last : Mesh α} (h : last.faces ≠ []) :
    join (parts ++ [last]) = (join parts).append last := by
  have hkept : ([last].filter fun part => !part.faces.isEmpty) = [last] := by simp [h]
  unfold join
  rw [List.filter_append, hkept, List.foldl_append, List.foldl_cons, List.foldl_nil]

end Mesh
end Arbor
