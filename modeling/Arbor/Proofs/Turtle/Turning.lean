/-
# Turns about one axis

Turns about one axis add up, as their angles do (`Axis.rotate_rotate`), and
since the heading is a unit at every moment of a walk over the real numbers,
nothing is lost by making it a unit again after each of them
(`Turtle.turned_turned`). If all samples are alike, a row of turns about one
axis is therefore one turn, by as many times the angle as there are more turns
forward than backward in it (`Turtle.walk_turns`). The walk goes on from there
in the same way, whatever turns have led to it (`Turtle.interpret_turns_add`).

Key definitions: `Axis.Turns`, `Axis.net`, `Turtle.unvaried`.
Key theorems: `Axis.net_cons`, `Turtle.turned_turned`, `Turtle.walk_turns`,
`Turtle.interpret_turns_add`.
-/
import Arbor.Proofs.Point.Rotation
import Arbor.Proofs.Turtle.Heading
import Arbor.Proofs.Turtle.Image
import Arbor.Proofs.Turtle.Parts

namespace Arbor

/-! ### Rows of turns -/

namespace Axis

/-- The word turns about one axis and does nothing else. -/
def Turns (axis : Axis) (w : Word) : Prop :=
  ∀ c ∈ w, c = axis.symbol false ∨ c = axis.symbol true

instance (axis : Axis) : DecidablePred axis.Turns := fun w => List.decidableBAll _ w

/-- How many more turns about an axis go forward than backward. -/
def net (axis : Axis) (w : Word) : ℤ := w.count (axis.symbol false) - w.count (axis.symbol true)

theorem turns_nil (axis : Axis) : axis.Turns [] := nofun

theorem net_nil (axis : Axis) : axis.net [] = 0 := rfl

theorem Turns.exists_cons {axis : Axis} {c : Char} {w : Word} (h : axis.Turns (c :: w)) :
    ∃ backward, c = axis.symbol backward ∧ axis.Turns w := by
  have hrest : axis.Turns w := fun d hd => h d (List.mem_cons_of_mem c hd)
  rcases h c List.mem_cons_self with hc | hc
  · exact ⟨false, hc, hrest⟩
  · exact ⟨true, hc, hrest⟩

theorem symbol_inj {axis : Axis} {a b : Bool} (h : axis.symbol a = axis.symbol b) : a = b := by
  have hturn := congrArg Command.ofSymbol h
  rw [Command.ofSymbol_symbol, Command.ofSymbol_symbol] at hturn
  exact (Command.turn.inj hturn).2

theorem net_cons (axis : Axis) (backward : Bool) (w : Word) :
    axis.net (axis.symbol backward :: w) = (if backward then -1 else 1) + axis.net w := by
  have hne : axis.symbol false ≠ axis.symbol true := fun h => Bool.noConfusion (symbol_inj h)
  unfold net
  cases backward with
  | false =>
    rw [List.count_cons_self, List.count_cons_of_ne hne, if_neg Bool.false_ne_true]
    omega
  | true =>
    rw [List.count_cons_self, List.count_cons_of_ne hne.symm, if_pos rfl]
    omega

end Axis

namespace Turtle

/-! ### A row of turns is one turn -/

variable {σ : Type}

theorem turned_zero {t : Turtle ℝ σ} (unit : t.cursor.heading.norm = 1) (axis : Axis) :
    t.turned axis 0 t.source = t := by
  unfold turned
  rw [Axis.rotate_zero, Point.unit_of_norm_one unit]

/-- Two turns about one axis are one by the sum of their angles. -/
theorem turned_turned {t : Turtle ℝ σ} (unit : t.cursor.heading.norm = 1) (axis : Axis) (a b : ℝ)
    (middle left : σ) :
    (t.turned axis a middle).turned axis b left = t.turned axis (a + b) left := by
  have hnorm := (axis.norm_rotate a t.cursor.heading).trans unit
  unfold turned
  simp only [Point.unit_of_norm_one hnorm, Axis.rotate_rotate]

/-- A source whose samples are all alike. -/
def unvaried {α : Type} (sample : α) (_ : Unit) : Option α × Unit := (some sample, ())

theorem step_turn_real (length : Option ℝ) (angle sample : ℝ) (i : Nat) (t : Turtle ℝ Unit)
    (axis : Axis) (backward : Bool) :
    step length (some angle) (unvaried sample) i t (.turn axis backward) =
      .ok (t.turned axis ((if backward then -angle else angle) * sample) ()) := by
  simp only [step, unvaried, Axis.turn?, Scalar.isInfinite_real, Bool.false_eq_true, if_false,
    turned]

/-- A row of turns about one axis turns the heading once, by the angles of all
of them. -/
theorem walk_turns (length : Option ℝ) (angle sample : ℝ) {axis : Axis} :
    ∀ {w : Word} {t : Turtle ℝ Unit} (i : Nat), axis.Turns w → t.cursor.heading.norm = 1 →
      walk length (some angle) (unvaried sample) i t w =
        .ok (t.turned axis (axis.net w * (angle * sample)) ())
  | [], t, i, _, unit => by
    rw [Axis.net_nil, Int.cast_zero, zero_mul]
    exact congrArg Except.ok (turned_zero unit axis).symm
  | c :: w, t, i, turns, unit => by
    obtain ⟨backward, rfl, hrest⟩ := turns.exists_cons
    have hangle : (if backward then -angle else angle) * sample + axis.net w * (angle * sample) =
        axis.net (axis.symbol backward :: w) * (angle * sample) := by
      rw [Axis.net_cons, Int.cast_add, add_mul]
      cases backward <;> simp
    rw [walk_cons, Command.ofSymbol_symbol, step_turn_real]
    show walk length (some angle) (unvaried sample) (i + 1) (t.turned axis _ ()) w = _
    rw [walk_turns length angle sample (i + 1) hrest (norm_heading_turned unit axis _ ()),
      turned_turned unit, hangle]

section Interpret

variable {length angle : Quantity ℝ} {draw : σ → Option ℝ × σ} {sample : ℝ}

/-- Where all samples are alike it does not matter where they come from. -/
theorem interpret_unvaried (constant : ∀ s, (draw s).1 = some sample) (source : σ) (w : Word) :
    (interpret length angle (unvaried sample) () w).1 =
      (interpret length angle draw source w).1 := by
  have same : ∀ s, unvaried sample () = ((draw s).1, ()) := fun s => by rw [constant s]; rfl
  exact congrArg Prod.fst
    (interpret_mapSource (φ := fun _ : σ => ()) same length angle source w)

/-- One row of turns can stand for another one with the same net number of
turns. -/
theorem interpret_exchange_turns {axis : Axis} {u v w w' : Word} {segments : List (Segment ℝ)}
    (turns : axis.Turns w) (turns' : axis.Turns w') (same : axis.net w' = axis.net w)
    (h : (interpret length angle (unvaried sample) () (u ++ w ++ v)).1 = .ok segments) :
    (interpret length angle (unvaried sample) () (u ++ w' ++ v)).1 = .ok segments := by
  have hpair : interpret length angle (unvaried sample) () (u ++ w ++ v) = (.ok segments, ()) :=
    Prod.ext h rfl
  obtain ⟨positive, last, hwalk, hmade, -⟩ := interpret_eq_ok_iff.1 hpair
  rw [Quantity.value?_real length, Quantity.value?_real angle] at hwalk
  obtain ⟨after, hafter, hv⟩ := (walk_append_eq_ok 0 0 0).1 hwalk
  obtain ⟨before, hu, hw⟩ := (walk_append_eq_ok 0 0 0).1 hafter
  have hsteady : Steady length.real before :=
    Steady.walk (Quantity.positive_iff_real.1 positive) u 0 (steady_atRoot _ ()) hu
  -- both rows of turns come to the same turtle
  have hw' : walk (some length.real) (some angle.real) (unvaried sample) 0 before w' =
      .ok after := by
    rw [← hw, walk_turns _ _ _ 0 turns hsteady.heading, walk_turns _ _ _ 0 turns' hsteady.heading,
      same]
  have hwalk' := (walk_append_eq_ok 0 0 0).2 ⟨after, (walk_append_eq_ok 0 0 0).2
    ⟨before, hu, hw'⟩, hv⟩
  rw [← Quantity.value?_real length, ← Quantity.value?_real angle] at hwalk'
  exact congrArg Prod.fst (interpret_eq_ok_iff.2 ⟨positive, last, hwalk', hmade, rfl⟩)

end Interpret

/-- **Turns about one axis add up.** A rotation about an axis keeps dot
products and cross products and leaves the points of the axis where they are,
two of them are one by the sum of the angles, and one by no angle changes
nothing. So if a word with a row of turns about one axis in it is walked to its
end over the real numbers and all samples are alike, the walk makes the same
segments with any other row of turns about that axis in its place in which as
many more turns go forward than backward, and, if no more go one way than the
other, with none there. -/
theorem interpret_turns_add {σ : Type} (length angle : Quantity ℝ) (draw : σ → Option ℝ × σ)
    (source : σ) (axis : Axis) (u v : Word) :
    (∀ (a b : ℝ) (p q : Point ℝ),
      (axis.rotate a p).dot (axis.rotate a q) = p.dot q ∧
      (axis.rotate a p).cross (axis.rotate a q) = axis.rotate a (p.cross q) ∧
      axis.rotate a (axis.direction.scale b) = axis.direction.scale b ∧
      axis.rotate b (axis.rotate a p) = axis.rotate (a + b) p ∧ axis.rotate 0 p = p) ∧
    ∀ (sample : ℝ) (w : Word) (segments : List (Segment ℝ)), (∀ s, (draw s).1 = some sample) →
      axis.Turns w → (interpret length angle draw source (u ++ w ++ v)).1 = .ok segments →
      (∀ w', axis.Turns w' → axis.net w' = axis.net w →
        (interpret length angle draw source (u ++ w' ++ v)).1 = .ok segments) ∧
      (axis.net w = 0 → (interpret length angle draw source (u ++ v)).1 = .ok segments) := by
  constructor
  · intro a b p q
    exact ⟨axis.dot_rotate a p q, axis.cross_rotate a p q, axis.rotate_direction a b,
      axis.rotate_rotate a b p, axis.rotate_zero p⟩
  · intro sample w segments constant turns h
    rw [← interpret_unvaried constant] at h
    constructor
    · intro w' turns' same
      rw [← interpret_unvaried constant]
      exact interpret_exchange_turns turns turns' same h
    · intro hnet
      rw [← interpret_unvaried constant, ← List.append_nil u]
      exact interpret_exchange_turns turns axis.turns_nil hnet.symm h

/-- A turn to and fro in front of a turn within a branch. -/
theorem interpret_turns_add_branch :
    let walked := fun turns => (interpret (.scalar (2 : ℝ)) (.scalar 1)
      (fun n : Nat => (some 0.5, n + 1)) 0
      (['F', '['] ++ turns ++ ['+', 'F', ']', '&', 'F'])).1
    ∃ segments, walked ['-', '+'] = .ok segments ∧ walked ['+', '-'] = .ok segments ∧
      walked [] = .ok segments := by
  intro walked
  have positive : (Quantity.scalar (2 : ℝ)).positive = true :=
    Quantity.positive_iff_real.2 (two_pos : (0 : ℝ) < 2)
  obtain ⟨segments, h⟩ : ∃ segments, walked ['-', '+'] = .ok segments := by
    show ∃ segments, (interpret _ _ _ _ _).1 = _
    rw [interpret, if_pos positive]
    exact ⟨_, rfl⟩
  obtain ⟨hsame, hnone⟩ := (interpret_turns_add (.scalar (2 : ℝ)) (.scalar 1)
    (fun n : Nat => (some 0.5, n + 1)) 0 .z ['F', '['] ['+', 'F', ']', '&', 'F']).2 0.5 ['-', '+']
    segments (fun _ => rfl) (by decide) h
  exact ⟨segments, h, hsame ['+', '-'] (by decide) (by decide), hnone (by decide)⟩

end Turtle
end Arbor
