/-
# The picture of a tree

A picture shows the branches as lines, the leaves and the flowers as dots and
the outline of the vase, before the sky. A tree grows along its second axis
and the vertical axis of a picture is the third one, so both are exchanged in
all that is drawn.

The axes follow what is drawn, one thing after the other, and in the end their
limits become those of the box around the vase and all segments. An axis whose
ends or whose length would not be finite at any time is a fault; so is a box so
large that nothing is left of its sides when they are compared with its
diagonal.

Key definitions: `Picture`, `Picture.upright`, `Picture.box`,
`Picture.follows`, `picture`.
-/
import Arbor.Mesh.Scene
import Arbor.Picture.Span

namespace Arbor

/-- Lines of one colour and width between pairs of points. -/
structure Strokes (α : Type) where
  colour : Colour
  width : α
  lines : List (Point α × Point α)

/-- Dots of one colour and size. -/
structure Dots (α : Type) where
  colour : Colour
  size : α
  points : List (Point α)

/-- A line through a list of points. -/
structure Curve (α : Type) where
  colour : Colour
  width : α
  points : List (Point α)

/-- What is drawn of a tree, and the axes it is drawn in. -/
structure Picture (α : Type) where
  title : String
  /-- The width and the height of the paper. -/
  paper : α × α
  background : Colour
  /-- The names of the three axes. -/
  labels : List String
  /-- The least and the greatest corner of the axes. -/
  limits : Point α × Point α
  /-- The lengths of the axes in proportion to each other. -/
  aspect : Point α
  /-- The height of the eye above the ground, in degrees. -/
  elevation : α
  /-- The direction of the eye, in degrees. -/
  azimuth : α
  branches : Option (Strokes α)
  leaves : Option (Dots α)
  flowers : Option (Dots α)
  outline : List (Curve α)

namespace Picture

variable {α γ : Type} [Scalar α]

/-- Why a picture cannot be drawn. -/
inductive Fault where
  /-- An axis is not bounded, or too long to be measured. -/
  | unboundedAxis
  /-- The diagonal of the box is beyond all scalars. -/
  | flatBox
  deriving DecidableEq, Repr

/-- The wording of a fault. -/
def Fault.message : Fault → String
  | unboundedAxis => "an axis has no finite limit"
  | flatBox => "the box of the axes is flat"

/-- A point with its second and third coordinate exchanged. -/
def upright (p : Point α) : Point α := ⟨p.x, p.z, p.y⟩

/-- Whether all coordinates of a point are finite. -/
def finitePoint (p : Point α) : Bool := Scalar.finite p.x && Scalar.finite p.y && Scalar.finite p.z

/-- The box around the vase. -/
def vaseBox : Point α × Point α :=
  let v : Vase.Profile α := Vase.Profile.default
  (⟨-v.bottomRadius, v.floor, -v.bottomRadius⟩, ⟨v.bottomRadius, v.rim, v.bottomRadius⟩)

/-- The box around the vase and all segments. -/
def box (segments : List (Segment α)) : Point α × Point α :=
  match endpoints segments with
  | [] => vaseBox
  | first :: rest =>
    let (low, high) := Point.corners first rest
    (Point.least vaseBox.1 low, Point.greatest vaseBox.2 high)

/-- Whether the corners and the sides of a box are finite. -/
def bounded (box : Point α × Point α) : Bool :=
  finitePoint box.1 && finitePoint box.2 && finitePoint (box.2 - box.1)

/-- The lengths of the axes of a box, none of them shorter than a millionth. -/
def aspectOf (limits : Point α × Point α) : Point α :=
  let size := limits.2 - limits.1
  ⟨Scalar.greatest size.x 1e-6, Scalar.greatest size.y 1e-6, Scalar.greatest size.z 1e-6⟩

/-- The lengths of the axes as parts of the longest one. -/
def proportions (aspect : Point α) : Point α :=
  aspect.dividedBy (Scalar.greatest (Scalar.greatest aspect.x aspect.y) aspect.z)

/-- `count` angles that divide the full turn into `parts`. -/
def angles (count parts : Nat) : List α :=
  (List.range count).map fun i => Scalar.ofNat i * (2.0 * Scalar.pi / Scalar.ofNat parts)

/-- The point at an angle on a level circle about the vertical axis. -/
def onCircle (radius height angle : α) : Point α :=
  ⟨radius * Scalar.cos angle, radius * Scalar.sin angle, height⟩

/-- How many parts a circle of the outline has. -/
def outlineParts : Nat := 32

/-- How many lines of the outline join the two circles. -/
def outlineSides : Nat := 8

/-- The outline of the vase: the circles of its bottom and its top, and lines
between them. -/
def vaseOutline : List (Curve α) :=
  let v : Vase.Profile α := Vase.Profile.default
  let circle (radius height : α) : Curve α :=
    ⟨Colour.vase, 1.5, (angles (outlineParts + 1) outlineParts).map (onCircle radius height)⟩
  let side (angle : α) : Curve α :=
    ⟨Colour.vase, 1.0,
      [onCircle v.bottomRadius v.floor angle, onCircle v.topRadius v.rim angle]⟩
  [circle v.bottomRadius v.floor, circle v.topRadius v.rim] ++
    (angles outlineSides outlineSides).map side

/-- The lines of the branches, if there are any. -/
def strokesOf (segments : List (Segment α)) : Option (Strokes α) :=
  if segments.isEmpty then none
  else some ⟨Colour.branch, 1.0, segments.map fun s => (upright s.start, upright s.finish)⟩

/-- The dots at a list of points, if there are any. A point that is not
finite is left out. -/
def dotsOf (colour : Colour) (size : α) (points : List (Point α)) : Option (Dots α) :=
  if points.isEmpty then none
  else some ⟨colour, size, (points.filter finitePoint).map upright⟩

/-! ### The axes -/

/-- The corners of a box that has been widened to hold further points. -/
def widened (box : Point α × Point α) (points : List (Point α)) : Point α × Point α :=
  (points.foldl Point.least box.1, points.foldl Point.greatest box.2)

/-- The box that empty axes have. -/
def unitBox : Point α × Point α := (⟨0.0, 0.0, 0.0⟩, ⟨1.0, 1.0, 1.0⟩)

/-- The box around all that has been drawn, after a further drawing. The first
drawing sets the box, unless it has no points. -/
def reach (before : Option (Point α × Point α)) (points : List (Point α)) : Point α × Point α :=
  match before, points with
  | some box, _ => widened box points
  | none, [] => unitBox
  | none, p :: ps => Point.corners p ps

/-- One of the things that are drawn. -/
structure Drawing (α : Type) where
  points : List (Point α)
  /-- Whether it consists of dots. -/
  dotted : Bool

/-- Whether axes can follow a box. The level ones have a margin, the vertical
one has it if `airy` says so. -/
def fits (airy : Bool) (box : Point α × Point α) : Bool :=
  let x : Span α := ⟨box.1.x, box.2.x⟩
  let y : Span α := ⟨box.1.y, box.2.y⟩
  let z : Span α := ⟨box.1.z, box.2.z⟩
  (x.framed true).finite && (y.framed true).finite && (z.framed airy).finite

/-- Whether axes that have followed earlier drawings can follow further ones.
The vertical axis gets its margin with the first dots. -/
def follows (airy : Bool) (before : Option (Point α × Point α)) : List (Drawing α) → Bool
  | [] => true
  | drawing :: others =>
    let airy := airy || (drawing.dotted && !drawing.points.isEmpty)
    let box := reach before drawing.points
    fits airy box && follows airy (some box) others

/-- All that is drawn, in its order. -/
def drawings (branches : Option (Strokes α)) (dots : List (Dots α)) (outline : List (Curve α)) :
    List (Drawing α) :=
  (branches.toList.map fun strokes => ⟨strokes.lines.flatMap fun (p, q) => [p, q], false⟩) ++
    (dots.map fun dots => ⟨dots.points, true⟩) ++ outline.map fun curve => ⟨curve.points, false⟩

/-- How the title of a picture counts what is drawn. -/
def titleOf (tree : Tree α γ) : String :=
  "Mimosa (" ++ toString tree.segments.length ++ " branches, " ++
    toString tree.flowers.length ++ " flowers)"

/-- The title that is there already when a fault is found. -/
def Fault.titleOf (tree : Tree α γ) : Fault → String
  | unboundedAxis => ""
  | flatBox => Picture.titleOf tree

end Picture

/-- The picture of a tree, with or without the outline of the vase. The eye
looks at the origin from equal distances along all axes. -/
def picture {α γ : Type} [Scalar α] (tree : Tree α γ) (withVase : Bool) :
    Except Picture.Fault (Picture α) :=
  let branches := Picture.strokesOf tree.segments
  let leaves := Picture.dotsOf Colour.leaf 6.0 tree.leaves
  let flowers := Picture.dotsOf Colour.flower 14.0 tree.flowers
  let outline := if withVase then Picture.vaseOutline else []
  let limits := Picture.box tree.segments
  let aspect := Picture.upright (Picture.aspectOf limits)
  let followed := Picture.follows false none
    (Picture.drawings branches (leaves.toList ++ flowers.toList) outline)
  if !(followed && Picture.bounded limits) then .error .unboundedAxis
  else if Scalar.isInfinite aspect.norm then .error .flatBox
  else .ok {
    title := Picture.titleOf tree
    paper := (8.0, 10.0)
    background := Colour.sky
    labels := ["X", "Z", "Y"]
    limits := (Picture.upright limits.1, Picture.upright limits.2)
    aspect := aspect
    elevation := Scalar.degrees (Scalar.arctan (1.0 / Scalar.sqrt 2.0))
    azimuth := 45.0
    branches := branches
    leaves := leaves
    flowers := flowers
    outline := outline }

/-- What is on a sheet of paper. -/
inductive Sheet (α : Type) where
  | picture (drawn : Picture α)
  /-- A picture that was given up, with the title that it had by then. -/
  | abandoned (title : String)

/-- The title on a sheet. -/
def Sheet.title {α : Type} : Sheet α → String
  | picture drawn => drawn.title
  | abandoned title => title

end Arbor
