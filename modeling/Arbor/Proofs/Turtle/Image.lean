/-
# Images of a walk

Over the real numbers nothing that a walk does depends on where the turtle is,
and only its rotations depend on where it heads. So two maps, one of places and
one of headings, carry a walk to another one if they carry a step forward to a
step forward and a turn to a turn (`Turtle.Carries`); the other walk may have
another length of a step and another base angle, and it may turn the other way
about some of the axes. The step lemma is `Turtle.step_image`. From it follow
the walk over a word with its symbols exchanged, failures included
(`Turtle.walk_image`), and what such a walk makes known of its end
(`Turtle.interpret_image`).

Key definitions: `Turtle.image`, `Axis.symbol`, `exchange`, `Turtle.Carries`.
Key theorems: `ofSymbol_exchange`, `Turtle.step_image`, `Turtle.walk_image`,
`Turtle.interpret_image`.
-/
import Arbor.Proofs.Point.Norm
import Arbor.Turtle.Walk

namespace Arbor

/-! ### Images -/

section Images

variable {α σ : Type}

/-- A segment between the images of two points. -/
def Segment.map (place : Point α → Point α) (s : Segment α) : Segment α :=
  ⟨place s.start, place s.finish⟩

theorem Segment.map_id (s : Segment α) : s.map id = s := rfl

/-- A cursor at the image of a place, with the image of a heading. -/
def Cursor.map (place aim : Point α → Point α) (c : Cursor α) : Cursor α :=
  ⟨place c.position, aim c.heading⟩

namespace Turtle

/-- The image of a turtle. Where its samples come from stays the same. -/
def image (place aim : Point α → Point α) (t : Turtle α σ) : Turtle α σ :=
  ⟨t.cursor.map place aim, t.saved.map (Cursor.map place aim), t.made.map (Segment.map place),
    t.source⟩

/-- The image of what a walk makes known of its end. -/
def outlined (place : Point α → Point α) (r : Except Fault (List (Segment α)) × σ) :
    Except Fault (List (Segment α)) × σ :=
  (r.1.map (List.map (Segment.map place)), r.2)

end Turtle

end Images

/-! ### Symbols exchanged -/

/-- The symbol of a turn about an axis. -/
def Axis.symbol : Axis → Bool → Char
  | .z, false => '+'
  | .z, true => '-'
  | .x, false => '&'
  | .x, true => '^'
  | .y, false => '\\'
  | .y, true => '/'

theorem Command.ofSymbol_symbol (axis : Axis) (backward : Bool) :
    ofSymbol (axis.symbol backward) = .turn axis backward := by
  cases axis <;> cases backward <;> rfl

/-- A command with turns about the axes `reversed` the other way. -/
def Command.exchanged (reversed : List Axis) : Command → Command
  | .turn axis backward => .turn axis (backward ^^ decide (axis ∈ reversed))
  | command => command

/-- The two symbols of turns about an axis exchanged for each other, for all
the axes `reversed`. -/
def exchange (reversed : List Axis) (c : Char) : Char :=
  match Command.ofSymbol c with
  | .turn axis backward => if axis ∈ reversed then axis.symbol (!backward) else c
  | _ => c

theorem ofSymbol_exchange (reversed : List Axis) (c : Char) :
    Command.ofSymbol (exchange reversed c) = (Command.ofSymbol c).exchanged reversed := by
  unfold exchange
  cases hc : Command.ofSymbol c with
  | turn axis backward =>
    by_cases haxis : axis ∈ reversed
    · simp [haxis, Command.ofSymbol_symbol, Command.exchanged]
    · simp [haxis, hc, Command.exchanged]
  | forward => exact hc
  | save => exact hc
  | restore => exact hc
  | idle => exact hc

theorem exchange_nil (c : Char) : exchange [] c = c := by
  unfold exchange
  split <;> simp

example : "F+[-F]&\\^/".toList.map (exchange [.z, .y]) = "F-[+F]&/^\\".toList := by decide

namespace Turtle

/-! ### Walks -/

/-- What two maps have to satisfy if they are to carry walks with one length
and one base angle to walks with others, the turns about the axes `reversed`
being exchanged. -/
structure Carries (place aim : Point ℝ → Point ℝ) (reversed : List Axis)
    (length length' angle angle' : ℝ) : Prop where
  origin : place Point.origin = Point.origin
  up : aim Point.up = Point.up
  forward : ∀ p h, place (p + h.scale length) = place p + (aim h).scale length'
  turn : ∀ (axis : Axis) (sample : ℝ) (h : Point ℝ),
    (axis.rotate ((if axis ∈ reversed then -angle' else angle') * sample) (aim h)).unit =
      aim (axis.rotate (angle * sample) h).unit

section Walks

variable {σ : Type} {draw : σ → Option ℝ × σ} {place aim : Point ℝ → Point ℝ}
  {reversed : List Axis} {length length' angle angle' : ℝ}
  (carries : Carries place aim reversed length length' angle angle')

include carries

/-- A turn either way. One that goes backward is one forward with the sample
negated. -/
theorem Carries.turned (axis : Axis) (backward : Bool) (sample : ℝ) (h : Point ℝ) :
    (axis.rotate ((if (backward ^^ decide (axis ∈ reversed)) then -angle' else angle') * sample)
        (aim h)).unit =
      aim (axis.rotate ((if backward then -angle else angle) * sample) h).unit := by
  cases backward with
  | false =>
    rw [Bool.false_xor]
    simpa using carries.turn axis sample h
  | true =>
    have hback := carries.turn axis (-sample) h
    rw [Bool.true_xor, if_pos rfl, neg_mul_comm, ← hback]
    by_cases haxis : axis ∈ reversed
    · simp [haxis]
    · simp [haxis]

theorem step_image (index : Nat) (t : Turtle ℝ σ) (command : Command) :
    step (some length') (some angle') draw index (t.image place aim) (command.exchanged reversed) =
      (step (some length) (some angle) draw index t command).map (image place aim) := by
  cases command with
  | forward =>
    simp only [Command.exchanged, step, image, Cursor.map, Segment.map, Except.map, List.map_cons,
      carries.forward]
  | turn axis backward =>
    simp only [Command.exchanged, step, image]
    rcases draw t.source with ⟨_ | sample, left⟩
    · rfl
    · simp only [Axis.turn?, Scalar.isInfinite_real, Bool.false_eq_true, if_false, Cursor.map,
        Except.map, image, carries.turned]
  | save => rfl
  | restore =>
    rcases t with ⟨cursor, _ | ⟨below, saved⟩, made, source⟩ <;> rfl
  | idle => rfl

theorem walk_image : ∀ (w : Word) (index : Nat) (t : Turtle ℝ σ),
    walk (some length') (some angle') draw index (t.image place aim) (w.map (exchange reversed)) =
      (walk (some length) (some angle) draw index t w).map (image place aim)
  | [], _, _ => rfl
  | c :: w, index, t => by
    rw [List.map_cons, walk_cons, walk_cons, ofSymbol_exchange, step_image carries]
    cases step (some length) (some angle) draw index t (Command.ofSymbol c) with
    | error fault => rfl
    | ok next => exact walk_image w (index + 1) next

end Walks

/-- What is known of a walk is carried to what is known of its image. -/
theorem interpret_image {σ : Type} {place aim : Point ℝ → Point ℝ} {reversed : List Axis}
    {length length' angle angle' : Quantity ℝ}
    (carries : Carries place aim reversed length.real length'.real angle.real angle'.real)
    (positive : length'.positive = length.positive) (draw : σ → Option ℝ × σ) (source : σ)
    (w : Word) :
    interpret length' angle' draw source (w.map (exchange reversed)) =
      outlined place (interpret length angle draw source w) := by
  have hroot : (atRoot source : Turtle ℝ σ) = (atRoot source).image place aim := by
    simp only [atRoot, image, Cursor.map, carries.origin, carries.up, List.map_nil]
  have hwalk : walk (some length'.real) (some angle'.real) draw 0 (atRoot source)
      (w.map (exchange reversed)) =
        (walk (some length.real) (some angle.real) draw 0 (atRoot source) w).map
          (image place aim) := by
    rw [← walk_image carries w 0 (atRoot source), ← hroot]
  unfold interpret
  rw [positive, Quantity.value?_real length, Quantity.value?_real length',
    Quantity.value?_real angle, Quantity.value?_real angle', hwalk]
  split
  · rcases walk (some length.real) (some angle.real) draw 0 (atRoot source) w with
      ⟨fault, left⟩ | t
    · rfl
    · simp only [Except.map, outlined, image, List.map_reverse]
  · rfl

end Turtle
end Arbor
