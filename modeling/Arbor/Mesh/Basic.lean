/-
# Surfaces and meshes

A surface is a list of vertices and a list of triangles that name them by
their places. A mesh is a surface whose faces have colours. Putting one
surface after another shifts the places its faces name by the number of
vertices in front.

Key definitions: `Face`, `Surface`, `Mesh`, `Surface.append`, `Mesh.append`,
`Mesh.join`, `Mesh.bounds`, `Mesh.colourRuns`.
-/
import Arbor.Mesh.Colour
import Arbor.Point

namespace Arbor

/-- A triangle: the places of its three corners, in the order that says which
side it shows. -/
structure Face (ι : Type) where
  a : ι
  b : ι
  c : ι
  deriving DecidableEq, Repr

namespace Face

/-- A face with its corners renamed. -/
def map {ι κ : Type} (f : ι → κ) (face : Face ι) : Face κ := ⟨f face.a, f face.b, f face.c⟩

/-- A face whose corners come after `count` other vertices. -/
def shift (count : Nat) (face : Face Nat) : Face Nat := face.map (count + ·)

@[simp] theorem shift_zero (face : Face Nat) : face.shift 0 = face := by
  simp [shift, map]

theorem shift_shift (m n : Nat) (face : Face Nat) :
    (face.shift m).shift n = face.shift (n + m) := by
  simp [shift, map, Nat.add_assoc]

end Face

/-- Vertices, and triangles between them. -/
structure Surface (α : Type) where
  vertices : List (Point α)
  faces : List (Face Nat)

namespace Surface

variable {α : Type}

/-- No vertices and no faces. -/
def empty : Surface α := ⟨[], []⟩

/-- One surface after another. -/
def append (s t : Surface α) : Surface α :=
  let count := s.vertices.length
  ⟨s.vertices ++ t.vertices, s.faces ++ t.faces.map (Face.shift count)⟩

end Surface

/-- Vertices, and coloured triangles between them. -/
structure Mesh (α : Type) where
  vertices : List (Point α)
  faces : List (Face Nat × Colour)

/-- A surface in one colour. -/
def Surface.painted {α : Type} (s : Surface α) (colour : Colour) : Mesh α :=
  ⟨s.vertices, s.faces.map fun face => (face, colour)⟩

/-- Why vertices cannot be counted. -/
inductive CountFault where
  /-- There are more of them than any list can hold. -/
  | tooMany
  /-- There is no room for so many of them. -/
  | noRoom
  deriving DecidableEq, Repr

/-- The wording of a fault. -/
def CountFault.message : CountFault → String
  | tooMany => "there are more vertices than any list can hold"
  | noRoom => "there is no room for so many vertices"

namespace Mesh

variable {α : Type}

/-- No vertices and no faces. -/
def empty : Mesh α := ⟨[], []⟩

/-- One mesh after another. -/
def append (m n : Mesh α) : Mesh α :=
  let count := m.vertices.length
  ⟨m.vertices ++ n.vertices,
    m.faces ++ n.faces.map fun (face, colour) => (face.shift count, colour)⟩

/-- All meshes that have faces, one after the other. -/
def join (parts : List (Mesh α)) : Mesh α :=
  (parts.filter fun part => !part.faces.isEmpty).foldl append empty

/-- The corners of the box around all vertices. -/
def bounds [Scalar α] (m : Mesh α) : Option (Point α × Point α) :=
  match m.vertices with
  | [] => none
  | first :: rest => some (Point.corners first rest)

/-- The colours of the faces in order, each with the number of faces in a row
that have it. -/
def colourRuns (m : Mesh α) : List (Colour × Nat) :=
  let extend (runs : List (Colour × Nat)) (face : Face Nat × Colour) : List (Colour × Nat) :=
    match runs with
    | (colour, count) :: older =>
      if colour = face.2 then (colour, count + 1) :: older else (face.2, 1) :: runs
    | [] => [(face.2, 1)]
  (m.faces.foldl extend []).reverse

/-- Why a part of a mesh cannot be made. -/
inductive Fault where
  | branchRadius
  | branchSections
  | markerRadius
  | vaseDimensions
  | vaseSections
  /-- A measure is a whole number beyond all scalars. -/
  | outOfRange
  | count (fault : CountFault)
  | colour (fault : Colour.Fault)
  deriving DecidableEq, Repr

/-- The wording of a fault. -/
def Fault.message : Fault → String
  | branchRadius => "branch radius must be > 0"
  | branchSections => "branch sections must be >= 3"
  | markerRadius => "marker radius must be > 0"
  | vaseDimensions => "vase dimensions must be > 0"
  | vaseSections => "vase sections must be >= 3"
  | outOfRange => "a whole number is beyond the range of the scalars"
  | count fault => fault.message
  | colour fault => fault.message

end Mesh
end Arbor
