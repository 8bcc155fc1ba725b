/-
# The vase

The vase is a closed cone without its point, standing on the vertical axis: a
ring round its bottom, one round its top, the two centres, a wall between the
rings and a cap on each of them. Its measures are quantities; `Vase.profile?`
gives the radii and heights of its two rings.

Key definitions: `Vase`, `Vase.default`, `Vase.Profile`, `Vase.profile?`,
`Vase.Profile.surface`, `vase`.
Key theorem: `Vase.profile?_default`.
-/
import Arbor.Mesh.Ring
import Arbor.Quantity

namespace Arbor

/-- The measures of a vase. -/
structure Vase (α : Type) where
  topRadius : Quantity α
  bottomRadius : Quantity α
  height : Quantity α
  /-- The height of its centre. -/
  center : Quantity α

/-- The two rings of a vase. -/
structure Vase.Profile (α : Type) where
  topRadius : α
  bottomRadius : α
  /-- The height of its bottom. -/
  floor : α
  /-- The height of its top. -/
  rim : α

namespace Vase

variable {α : Type} [Scalar α]

/-- The vase under a tree, which ends where the trunk begins. -/
def default : Vase α := ⟨.scalar 1.0, .scalar 1.2, .scalar 2.0, .scalar (-1.0)⟩

/-- The rings of the vase under a tree. -/
def Profile.default : Profile α := ⟨1.0, 1.2, -1.0 - 2.0 / 2.0, -1.0 + 2.0 / 2.0⟩

/-- How many vertices the rings of the vase under a tree have. -/
def defaultSections : Int := 32

/-- The rings of a vase, if no measure is beyond all scalars. -/
def profile? (v : Vase α) : Option (Profile α) := do
  let half ← v.height.half?
  let center ← v.center.value?
  let bottom ← v.bottomRadius.value?
  let top ← v.topRadius.value?
  some ⟨top, bottom, center - half, center + half⟩

theorem profile?_default : (default : Vase α).profile? = some Profile.default := rfl

/-- Whether the heights of a vase and the radius of its bottom can be reckoned
with, which is found out before its bottom is made. -/
def grounded (v : Vase α) : Bool :=
  v.height.half?.isSome && v.center.value?.isSome && v.bottomRadius.value?.isSome

/-- A ring at a height. -/
def ring (turns : List (α × α)) (radius height : α) : List (Point α) :=
  turns.map fun (cosine, sine) => ⟨radius * cosine, height, radius * sine⟩

/-- The triangle of the bottom next to gap `i`. -/
def bottomFace (sections i : Nat) : Face Nat := ⟨2 * sections, Ring.next sections i, i⟩

/-- The triangle of the top next to gap `i`. -/
def topFace (sections i : Nat) : Face Nat :=
  ⟨2 * sections + 1, sections + i, sections + Ring.next sections i⟩

/-- The faces of a vase: its wall, its bottom, its top. -/
def faces (sections : Nat) : List (Face Nat) :=
  Ring.wall sections ++ (List.range sections).map (bottomFace sections) ++
    (List.range sections).map (topFace sections)

/-- The surface of a vase. -/
def Profile.surface (v : Profile α) (sections : Nat) : Surface α where
  vertices :=
    ring (Ring.turns sections) v.bottomRadius v.floor ++
      ring (Ring.turns sections) v.topRadius v.rim ++ [⟨0.0, v.floor, 0.0⟩, ⟨0.0, v.rim, 0.0⟩]
  faces := faces sections

end Vase

/-- The mesh of a vase, if its measures are good. A bottom that should have
vertices and is counted without any cannot be made. -/
def vase {α : Type} [Scalar α] (v : Vase α) (sections : Int)
    (counter : Ring.Counter := .machine) : Except Mesh.Fault (Mesh α) :=
  if !(v.topRadius.positive && v.bottomRadius.positive && v.height.positive) then
    .error .vaseDimensions
  else if sections < 3 then .error .vaseSections
  else
    match counter.count sections with
    | .error fault => .error (.count fault)
    | .ok vertices =>
      if vertices = 0 && v.grounded then .error (.count .tooMany)
      else
        match v.profile? with
        | none => .error .outOfRange
        | some profile => .ok ((profile.surface vertices).painted Colour.vase)

end Arbor
