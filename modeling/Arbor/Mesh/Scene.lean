/-
# The scene

The mesh of a whole tree: the tubes of its branches, a sphere at every leaf
and every flower and, if wanted, the vase, one after the other.

Key definitions: `scene`.
-/
import Arbor.Mesh.Sphere
import Arbor.Mesh.Tube
import Arbor.Mesh.Vase
import Arbor.Tree.Basic

namespace Arbor

/-- The radii of the parts of a scene. -/
structure SceneRadii (α : Type) where
  branch : Quantity α
  leaf : Quantity α
  flower : Quantity α

variable {α γ : Type} [Scalar α]

/-- The radii when nothing else is said. -/
def SceneRadii.default : SceneRadii α :=
  ⟨.scalar branchRadius, .scalar 0.08, .scalar 0.1⟩

/-- The mesh of a tree, with or without the vase. -/
def scene (tree : Tree α γ) (withVase : Bool) (radii : SceneRadii α) :
    Except Mesh.Fault (Mesh α) := do
  let branches ← branchTubes tree.segments radii.branch (Int.ofNat branchSections)
  let leaves ← markers tree.leaves radii.leaf markerDivisions (.ok Colour.leaf)
  let flowers ← markers tree.flowers radii.flower markerDivisions (.ok Colour.flower)
  if withVase then
    let under ← vase Vase.default Vase.defaultSections
    pure (Mesh.join [branches, leaves, flowers, under])
  else pure (Mesh.join [branches, leaves, flowers])

end Arbor
