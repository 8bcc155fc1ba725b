/-
# The turtle's walk

The turtle starts at the origin and heads up. It reads a word once: a step
forward leaves a segment behind, a turn rotates the heading by the base angle
times a fresh sample of the jitter and makes it a unit again, an opening
bracket saves the cursor and a closing one goes back to it.

Where the samples come from is left open: `draw` takes one from a source and
gives the source that is left. A walk that fails gives no segments, but it
gives the source, from which the samples drawn so far are gone.

The length of a step, the base angle and a sample may be missing because they
were given as whole numbers beyond all scalars. That is a fault only when they
are needed.

Key definitions: `Segment`, `Turtle`, `Turtle.step`, `Turtle.walk`,
`Turtle.interpret`, `Turtle.cycle`.
Key theorems: `Turtle.walk_nil`, `Turtle.walk_cons`.
-/
import Arbor.Bracket
import Arbor.Turtle.Command

namespace Arbor

/-- A piece of a branch, from one point to another. -/
structure Segment (α : Type) where
  start : Point α
  finish : Point α
  deriving DecidableEq, Repr

/-- Where the turtle is and where it heads. -/
structure Cursor (α : Type) where
  position : Point α
  heading : Point α
  deriving DecidableEq, Repr

/-- A turtle on its way. -/
structure Turtle (α σ : Type) where
  cursor : Cursor α
  /-- The cursors to go back to, the one saved last first. -/
  saved : List (Cursor α)
  /-- The segments left behind, the newest first. -/
  made : List (Segment α)
  /-- Where the samples of the jitter come from. -/
  source : σ

namespace Turtle

/-- Why a walk fails. -/
inductive Fault where
  /-- The length of a step is not greater than zero. -/
  | stepLength
  /-- A closing bracket with no cursor saved. -/
  | unmatched (index : Nat)
  /-- A turn that cannot be made. -/
  | turn (fault : TurnFault)
  /-- A step whose length is a whole number beyond all scalars. -/
  | lengthOutOfRange
  deriving DecidableEq, Repr

/-- The wording of a fault. -/
def Fault.message : Fault → String
  | stepLength => "step_length must be > 0"
  | unmatched index => (Bracket.Fault.unmatched index).message
  | turn fault => fault.message
  | lengthOutOfRange => TurnFault.outOfRange.message

variable {α σ : Type} [Scalar α]

/-- A turtle at the root of the tree. -/
def atRoot (source : σ) : Turtle α σ := ⟨⟨Point.origin, Point.up⟩, [], [], source⟩

/-- The step that a turtle takes on the command at position `index`. -/
def step (length angle : Option α) (draw : σ → Option α × σ) (index : Nat) (t : Turtle α σ) :
    Command → Except (Fault × σ) (Turtle α σ)
  | .forward =>
    match length with
    | none => .error (.lengthOutOfRange, t.source)
    | some length =>
      let next := t.cursor.position + t.cursor.heading.scale length
      .ok { t with
        cursor := ⟨next, t.cursor.heading⟩
        made := ⟨t.cursor.position, next⟩ :: t.made }
  | .turn axis backward =>
    match angle with
    | none => .error (.turn .outOfRange, t.source)
    | some angle =>
      match draw t.source with
      | (none, source) => .error (.turn .outOfRange, source)
      | (some sample, source) =>
        match axis.turn? ((if backward then -angle else angle) * sample) t.cursor.heading with
        | none => .error (.turn .infiniteAngle, source)
        | some heading =>
          .ok { t with cursor := ⟨t.cursor.position, heading.unit⟩, source := source }
  | .save => .ok { t with saved := t.cursor :: t.saved }
  | .restore =>
    match t.saved with
    | [] => .error (.unmatched index, t.source)
    | cursor :: saved => .ok { t with cursor := cursor, saved := saved }
  | .idle => .ok t

/-- The walk over a word whose first symbol is at position `index`. -/
def walk (length angle : Option α) (draw : σ → Option α × σ) :
    Nat → Turtle α σ → Word → Except (Fault × σ) (Turtle α σ)
  | _, t, [] => .ok t
  | index, t, c :: rest =>
    match step length angle draw index t (Command.ofSymbol c) with
    | .error fault => .error fault
    | .ok next => walk length angle draw (index + 1) next rest

@[simp] theorem walk_nil (length angle : Option α) (draw : σ → Option α × σ) (index : Nat)
    (t : Turtle α σ) : walk length angle draw index t [] = .ok t := rfl

theorem walk_cons (length angle : Option α) (draw : σ → Option α × σ) (index : Nat)
    (t : Turtle α σ) (c : Char) (w : Word) :
    walk length angle draw index t (c :: w) =
      (step length angle draw index t (Command.ofSymbol c)).bind
        fun next => walk length angle draw (index + 1) next w := by
  rw [walk]
  cases step length angle draw index t (Command.ofSymbol c) <;> rfl

/-- The segments of the walk over a word, in order, and the source with the
samples that are left. -/
def interpret (length angle : Quantity α) (draw : σ → Option α × σ) (source : σ) (word : Word) :
    Except Fault (List (Segment α)) × σ :=
  if length.positive then
    match walk length.value? angle.value? draw 0 (atRoot source) word with
    | .ok t => (.ok t.made.reverse, t.source)
    | .error (fault, left) => (.error fault, left)
  else (.error .stepLength, source)

/-! ### Samples from a list

A list of samples that starts over at its end. The source is the number of
samples drawn so far, and no samples at all stand for the sample one. -/

/-- The sample after `drawn` others. -/
def cycle (samples : Array (Quantity α)) (drawn : Nat) : Option α × Nat :=
  ((samples.getD (drawn % samples.size) (.scalar 1.0)).value?, drawn + 1)

end Turtle
end Arbor
