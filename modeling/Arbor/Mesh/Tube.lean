/-
# Tubes round branches

Every segment gets an open tube: a ring round its start and one round its
finish, with a wall between them. The rings lie across the segment. Their
first direction is at right angles to the segment and to a side axis that
is not parallel to it, the second one at right angles to both.

Key definitions: `Tube.axes`, `Tube.vertices`, `tubes`, `branchTubes`.
-/
import Arbor.Mesh.Ring
import Arbor.Turtle.Walk

namespace Arbor

variable {α : Type} [Scalar α]

namespace Tube

/-- The direction of a segment. The length divided by is never less than a
billionth, so that a segment without length has no direction. -/
def direction (s : Segment α) : Point α :=
  let d := s.finish - s.start
  d.dividedBy (Scalar.greatest d.norm 1e-9)

/-- An axis that is not parallel to a direction: the upward one, or the first
one if the direction is close to upright. -/
def sideAxis (d : Point α) : Point α :=
  if Scalar.magnitude d.y < 0.9 then ⟨0.0, 1.0, 0.0⟩ else ⟨1.0, 0.0, 0.0⟩

/-- The two directions across a segment that its rings are spread over. -/
def axes (s : Segment α) : Point α × Point α :=
  let d := direction s
  let right := (d.cross (sideAxis d)).unit
  (right, right.cross d)

/-- The offsets of the vertices of a ring from its centre. -/
def offsets (radius : α) (turns : List (α × α)) (s : Segment α) : List (Point α) :=
  let (right, forward) := axes s
  turns.map fun (cosine, sine) => (right.scale cosine + forward.scale sine).scale radius

/-- The vertices of a tube: the ring round the start, then the one round the
finish. -/
def vertices (radius : α) (turns : List (α × α)) (s : Segment α) : List (Point α) :=
  let ring := offsets radius turns s
  ring.map (s.start + ·) ++ ring.map (s.finish + ·)

end Tube

/-- The tubes round a list of segments, one after the other. -/
def tubes (radius : α) (sections : Nat) (segments : List (Segment α)) : Surface α where
  vertices := segments.flatMap (Tube.vertices radius (Ring.turns sections))
  faces := segments.zipIdx.flatMap fun (_, place) =>
    (Ring.wall sections).map (Face.shift (place * (2 * sections)))

/-- The radius of a branch. -/
def branchRadius : α := 0.02

/-- How many vertices a ring round a branch has. -/
def branchSections : Nat := 6

/-- The tubes of the branches of a tree, if the measures are good. As long as
there is no branch, neither the number of sections nor the radius has to be
one that can be reckoned with. Rings that should have more vertices than there
are words and are counted without any make no tubes. -/
def branchTubes (segments : List (Segment α)) (radius : Quantity α) (sections : Int)
    (counter : Ring.Counter := .machine) : Except Mesh.Fault (Mesh α) :=
  if !radius.positive then .error .branchRadius
  else if sections < 3 then .error .branchSections
  else if segments.isEmpty then .ok Mesh.empty
  else
    match counter.count sections with
    | .error fault => .error (.count fault)
    | .ok vertices =>
      match radius.value? with
      | none => .error .outOfRange
      | some radius =>
        if vertices = 0 && !Ring.isWord sections then .error .outOfRange
        else .ok ((tubes radius vertices segments).painted Colour.branch)

end Arbor
