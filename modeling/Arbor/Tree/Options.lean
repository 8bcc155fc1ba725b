/-
# The options of a tree

What a tree is grown from: the seed of its generator, the grammar, the length
of a step, the angles in degrees and the range of the jitter.

Key definitions: `Options`, `Options.default`.
-/
import Arbor.Grammar
import Arbor.Quantity

namespace Arbor

/-- What a tree is grown from. -/
structure Options (α : Type) where
  /-- The seed of the generator; without one no two trees are alike. -/
  seed : Option Int
  start : Word
  rules : Rules
  generations : Setting
  stepLength : Quantity α
  /-- The middle of the range of the base angle, in degrees. -/
  angleCenter : Quantity α
  /-- How far the base angle may be from the middle of its range, in degrees. -/
  angleSpread : Quantity α
  jitterLow : Quantity α
  jitterHigh : Quantity α

/-- The options of a mimosa. -/
def Options.default {α : Type} [Scalar α] (seed : Option Int) : Options α where
  seed := seed
  start := mimosaStart
  rules := mimosaRules
  generations := .whole (Int.ofNat mimosaGenerations)
  stepLength := .scalar 0.5
  angleCenter := .scalar 45.0
  angleSpread := .scalar 15.0
  jitterLow := .scalar 0.7
  jitterHigh := .scalar 1.3

end Arbor
