/-
# Spheres

A sphere is a regular body of twenty triangles whose faces are divided a
number of times. A division puts a new vertex in the middle of every edge and
makes four triangles out of each one; after each division every vertex is
moved away from the centre or towards it until its distance is the radius. If
nothing is divided the vertices are moved once.

The edges of a division are listed in order, by their greater end first, and
give the new vertices in that order.

Key definitions: `Sphere.EdgeTable`, `Sphere.edges`, `Sphere.divideFaces`,
`Sphere.divideVertices`, `sphere`, `copies`, `markers`.
-/
import Arbor.Mesh.Basic
import Arbor.Quantity

namespace Arbor
namespace Sphere

/-! ### The division of the faces

Edges are kept by their greater end: the table has a list of lesser ends, in
order, for every vertex. -/

/-- An edge: its lesser and its greater end. -/
abbrev Edge := Nat × Nat

/-- The lesser ends of the edges, by their greater end. -/
abbrev EdgeTable := Array (List Nat)

/-- Puts a number into its place in a list, unless it is there already. -/
def insertOnce (n : Nat) : List Nat → List Nat
  | [] => [n]
  | m :: rest =>
    if n = m then m :: rest else if n < m then n :: m :: rest else m :: insertOnce n rest

namespace EdgeTable

/-- The table with the edge between two vertices. -/
def insert (table : EdgeTable) (p q : Nat) : EdgeTable :=
  table.modify (max p q) (insertOnce (min p q))

/-- The table of the edges of all faces between `count` vertices. -/
def ofFaces (count : Nat) (faces : List (Face Nat)) : EdgeTable :=
  faces.foldl
    (fun table face =>
      ((table.insert face.a face.b).insert face.b face.c).insert face.c face.a)
    (Array.replicate count [])

/-- The edges in order, by their greater end first. -/
def edges (table : EdgeTable) : List Edge :=
  (Array.toList table).zipIdx.flatMap fun (lesser, greater) => lesser.map fun p => (p, greater)

/-- For every vertex, how many edges come before those whose greater end it
is. -/
def starts (table : EdgeTable) : Array Nat :=
  (table.foldl (fun (found, total) lesser => (found.push total, total + lesser.length))
    ((#[], 0) : Array Nat × Nat)).1

/-- How many edges come before the edge between two vertices; `starts` are
those of the table. -/
def place (table : EdgeTable) (starts : Array Nat) (p q : Nat) : Nat :=
  starts.getD (max p q) 0 + (table.getD (max p q) []).idxOf (min p q)

end EdgeTable

/-- The edges of all faces between `count` vertices, in order. -/
def edges (count : Nat) (faces : List (Face Nat)) : List Edge :=
  (EdgeTable.ofFaces count faces).edges

/-- The four faces that a face is divided into; `middle` is the vertex in the
middle of the edge between two vertices. -/
def divideFace (middle : Nat → Nat → Nat) (face : Face Nat) : List (Face Nat) :=
  let ab := middle face.a face.b
  let bc := middle face.b face.c
  let ca := middle face.c face.a
  [⟨face.a, ab, ca⟩, ⟨ab, face.b, bc⟩, ⟨ca, bc, face.c⟩, ⟨ab, bc, ca⟩]

/-- All faces divided. The vertices in the middle of the edges follow `count`
others. -/
def divideFaces (count : Nat) (faces : List (Face Nat)) : List (Face Nat) :=
  let table := EdgeTable.ofFaces count faces
  let starts := table.starts
  faces.flatMap (divideFace fun p q => count + table.place starts p q)

/-! ### The vertices -/

variable {α : Type} [Scalar α]

/-- The point half way between two others. -/
def middle (p q : Point α) : Point α := (p + q).dividedBy 2.0

/-- The vertices after a division: the old ones and the middles of all
edges. -/
def divideVertices (vertices : List (Point α)) (faces : List (Face Nat)) : List (Point α) :=
  let old := vertices.toArray
  let at_place (i : Nat) : Point α := old.getD i Point.origin
  vertices ++ (edges old.size faces).map fun e => middle (at_place e.1) (at_place e.2)

/-- A vertex moved until its distance from the centre is the radius. -/
def atRadius (radius : α) (v : Point α) : Point α := v + v.unit.scale (radius - v.norm)

/-- The shorter coordinate of a vertex of the regular body. -/
def short : α := 0.5257311121191336

/-- The longer coordinate of a vertex of the regular body. -/
def long : α := 0.85065080835204

/-- The twelve vertices of the regular body. -/
def bodyVertices : List (Point α) :=
  [⟨-short, long, 0.0⟩, ⟨short, long, 0.0⟩, ⟨-short, -long, 0.0⟩, ⟨short, -long, 0.0⟩,
    ⟨0.0, -short, long⟩, ⟨0.0, short, long⟩, ⟨0.0, -short, -long⟩, ⟨0.0, short, -long⟩,
    ⟨long, 0.0, -short⟩, ⟨long, 0.0, short⟩, ⟨-long, 0.0, -short⟩, ⟨-long, 0.0, short⟩]

/-- The twenty faces of the regular body. -/
def bodyFaces : List (Face Nat) :=
  [⟨0, 11, 5⟩, ⟨0, 5, 1⟩, ⟨0, 1, 7⟩, ⟨0, 7, 10⟩, ⟨0, 10, 11⟩,
    ⟨1, 5, 9⟩, ⟨5, 11, 4⟩, ⟨11, 10, 2⟩, ⟨10, 7, 6⟩, ⟨7, 1, 8⟩,
    ⟨3, 9, 4⟩, ⟨3, 4, 2⟩, ⟨3, 2, 6⟩, ⟨3, 6, 8⟩, ⟨3, 8, 9⟩,
    ⟨4, 9, 5⟩, ⟨2, 4, 11⟩, ⟨6, 2, 10⟩, ⟨8, 6, 7⟩, ⟨9, 8, 1⟩]

/-- A surface with all faces divided and all vertices at the radius. -/
def divide (radius : α) (s : Surface α) : Surface α :=
  ⟨(divideVertices s.vertices s.faces).map (atRadius radius),
    divideFaces s.vertices.length s.faces⟩

end Sphere

variable {α : Type} [Scalar α]

/-- A sphere about the origin whose faces have been divided a number of
times. -/
def sphere (radius : α) (divisions : Int) : Surface α :=
  if divisions ≤ 0 then ⟨Sphere.bodyVertices.map (Sphere.atRadius radius), Sphere.bodyFaces⟩
  else divisions.toNat.repeat (Sphere.divide radius) ⟨Sphere.bodyVertices, Sphere.bodyFaces⟩

/-- A copy of a surface at every point, one after the other. -/
def copies (s : Surface α) (points : List (Point α)) : Surface α :=
  let count := s.vertices.length
  ⟨points.flatMap fun p => s.vertices.map (· + p),
    points.zipIdx.flatMap fun (_, place) => s.faces.map (Face.shift (place * count))⟩

/-- How often the faces of a leaf or a flower are divided. -/
def markerDivisions : Int := 1

/-- A coloured sphere at every point. The radius has to be greater than zero
even if there is no point; that it is not beyond all scalars, and that the
colour is good, matters only if there is one. -/
def markers (points : List (Point α)) (radius : Quantity α) (divisions : Int)
    (colour : Except Colour.Fault Colour) : Except Mesh.Fault (Mesh α) :=
  if !radius.positive then .error .markerRadius
  else if points.isEmpty then .ok Mesh.empty
  else
    match radius.value? with
    | none => .error .outOfRange
    | some radius =>
      match colour with
      | .error fault => .error (.colour fault)
      | .ok colour => .ok ((copies (sphere radius divisions) points).painted colour)

end Arbor
