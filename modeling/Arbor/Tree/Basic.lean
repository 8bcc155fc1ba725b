/-
# Trees

A tree holds its options, a generator, and what the last growth left behind:
the word, the base angle, the segments, the leaves and the flowers.

`Tree.generate` checks the options, expands the grammar, draws the base
angle, walks the word and decorates the segments, in this order. A failure
before the first draw leaves the tree as it was. A failure on the walk leaves
the new word, the new base angle and the generator with all draws taken, and
the segments, leaves and flowers as they were. A base angle beyond all scalars
leaves the new word and the generator, and all else as it was.

Key definitions: `Tree`, `Tree.plant`, `Tree.prepare`, `Tree.generate`,
`Tree.bounds`.
-/
import Arbor.Chance.Jitter
import Arbor.Tree.Decoration
import Arbor.Tree.Options

namespace Arbor

/-- A tree and the generator it grows by. -/
structure Tree (α γ : Type) where
  options : Options α
  generator : γ
  word : Word
  baseAngle : α
  segments : List (Segment α)
  leaves : List (Point α)
  flowers : List (Point α)

namespace Tree

/-- Why a tree does not grow. -/
inductive Fault (α : Type) where
  | stepLength
  | angleSpread
  | jitter (fault : Jitter.Fault α)
  | grammar (fault : Grammar.Fault)
  /-- The range of the base angle is given by whole numbers beyond all
  scalars. -/
  | angleOutOfRange
  | turtle (fault : Turtle.Fault)
  | flowers (fault : FlowerFault)

/-- The wording of a fault. -/
def Fault.message : Fault Float → String
  | stepLength => "step_length must be > 0"
  | angleSpread => "angle_spread_deg must be >= 0"
  | jitter fault => fault.message
  | grammar fault => fault.message
  | angleOutOfRange => TurnFault.outOfRange.message
  | turtle fault => fault.message
  | flowers fault => fault.message

variable {α γ : Type} [Scalar α] [Generator γ α]

/-- A tree that has not grown yet, with a generator of its own. -/
def sapling (options : Options α) (g : γ) : Tree α γ := ⟨options, g, [], 0.0, [], [], []⟩

/-- A tree that has not grown yet. Its generator comes from the seed of its
options or, if they have none, from `entropy`. -/
def plant (options : Options α) (entropy : Int) : Tree α γ :=
  sapling options (Generator.seeded (options.seed.getD entropy))

/-- The same tree with the generator of a seed. -/
def reseed (tree : Tree α γ) (seed : Int) : Tree α γ :=
  { tree with generator := Generator.seeded seed }

/-- All that has to hold before anything is drawn: the word to walk and the
jitter, if the options are good. -/
def prepare (o : Options α) : Except (Fault α) (Word × Jitter α) :=
  if !o.stepLength.positive then .error .stepLength
  else if !o.angleSpread.notNegative then .error .angleSpread
  else
    match Jitter.ofRange o.jitterLow o.jitterHigh with
    | .error fault => .error (.jitter fault)
    | .ok jitter =>
      match Grammar.expand o.start o.rules o.generations with
      | .error fault => .error (.grammar fault)
      | .ok word => .ok (word, jitter)

/-- The tree after a growth, and why it failed if it did. -/
def generate (tree : Tree α γ) : Except (Fault α) (List (Segment α)) × Tree α γ :=
  let o := tree.options
  match prepare o with
  | .error fault => (.error fault, tree)
  | .ok (word, jitter) =>
    match Arbor.baseAngle o.angleCenter o.angleSpread tree.generator with
    | (none, g) => (.error .angleOutOfRange, { tree with generator := g, word := word })
    | (some angle, g) =>
      match Turtle.interpret o.stepLength (.scalar angle) jitter.draw g word with
      | (.error fault, g) =>
        (.error (.turtle fault), { tree with generator := g, word := word, baseAngle := angle })
      | (.ok segments, g) =>
        match Arbor.flowers segments none g with
        | (.error fault, g) =>
          (.error (.flowers fault),
            ⟨o, g, word, angle, segments, tips segments, tree.flowers⟩)
        | (.ok picked, g) =>
          (.ok segments, ⟨o, g, word, angle, segments, tips segments, picked⟩)

/-- A tree without segments has no bounds. -/
inductive BoundsFault where
  | noSegments
  deriving DecidableEq, Repr

/-- The wording of a fault. -/
def BoundsFault.message : BoundsFault → String
  | noSegments => "tree has no segments; call generate() first"

/-- The corners of the box around all segments. -/
def bounds (tree : Tree α γ) : Except BoundsFault (Point α × Point α) :=
  match endpoints tree.segments with
  | [] => .error .noSegments
  | first :: rest => .ok (Point.corners first rest)

end Tree
end Arbor
