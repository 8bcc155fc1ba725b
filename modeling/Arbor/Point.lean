/-
# Points in space

A point of space, also used as a direction. The products are written out by
coordinates, and the length of a direction is the root of the plain sum of
squares.

Key definitions: `Point`, `Point.dot`, `Point.cross`, `Point.norm`,
`Point.corners`.
-/
import Arbor.Scalar

namespace Arbor

/-- A point, or a direction, by its three coordinates. -/
structure Point (α : Type) where
  x : α
  y : α
  z : α
  deriving DecidableEq, Repr

namespace Point

variable {α : Type} [Scalar α]

/-- The point at which a tree is rooted. -/
def origin : Point α := ⟨0.0, 0.0, 0.0⟩

/-- The direction a tree grows in. -/
def up : Point α := ⟨0.0, 1.0, 0.0⟩

instance : Add (Point α) := ⟨fun p q => ⟨p.x + q.x, p.y + q.y, p.z + q.z⟩⟩

instance : Sub (Point α) := ⟨fun p q => ⟨p.x - q.x, p.y - q.y, p.z - q.z⟩⟩

/-- A direction times a scalar. -/
def scale (k : α) (p : Point α) : Point α := ⟨k * p.x, k * p.y, k * p.z⟩

/-- A direction divided by a scalar. -/
def dividedBy (p : Point α) (k : α) : Point α := ⟨p.x / k, p.y / k, p.z / k⟩

/-- The sum of the products of the coordinates. -/
def dot (p q : Point α) : α := p.x * q.x + p.y * q.y + p.z * q.z

/-- The direction at right angles to two others. -/
def cross (p q : Point α) : Point α :=
  ⟨p.y * q.z - p.z * q.y, p.z * q.x - p.x * q.z, p.x * q.y - p.y * q.x⟩

/-- The length of a direction. -/
def norm (p : Point α) : α := Scalar.sqrt (p.dot p)

/-- A direction of length one. -/
def unit (p : Point α) : Point α := p.dividedBy p.norm

/-- Two points combined coordinate by coordinate. -/
def zipWith (f : α → α → α) (p q : Point α) : Point α := ⟨f p.x q.x, f p.y q.y, f p.z q.z⟩

/-- The least corner of the box around two points. -/
def least (p q : Point α) : Point α := zipWith Scalar.least p q

/-- The greatest corner of the box around two points. -/
def greatest (p q : Point α) : Point α := zipWith Scalar.greatest p q

/-- The two corners of the box around a point and a list of further ones. -/
def corners (p : Point α) (ps : List (Point α)) : Point α × Point α :=
  (ps.foldl least p, ps.foldl greatest p)

@[simp] theorem corners_nil (p : Point α) : corners p [] = (p, p) := rfl

end Point
end Arbor
