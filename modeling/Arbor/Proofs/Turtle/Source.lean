/-
# The samples of a walk

A walk knows of its source no more than the samples it takes from it. If two
sources give the same samples, the walks are the same, step by step, and what
is left of the sources still gives the same samples (`interpret_mapSource`).

In a walk without a fault every turn takes one sample, and it is turned by the
base angle times the first one that the turns before it have left (`walk_turn`).
Brackets give no sample back and take none: where each sample moves the source
on by the same step, the source has moved on by one step for every turn
(`drawn_of_no_fault`).

Key definitions: `Turtle.mapSource`, `Turtle.turned`.
Key theorems: `Turtle.step_mapSource`, `Turtle.interpret_mapSource`,
`Turtle.walk_turn`, `Turtle.drawn_of_no_fault`.
-/
import Arbor.Proofs.Turtle.Outcome

namespace Arbor

theorem Command.eq_turn_of_isTurn {command : Command} (h : command.isTurn = true) :
    ∃ axis backward, command = .turn axis backward := by
  cases command with
  | turn axis backward => exact ⟨axis, backward, rfl⟩
  | forward => cases h
  | save => cases h
  | restore => cases h
  | idle => cases h

namespace Turtle

variable {α σ τ : Type}

/-! ### Sources that give the same samples -/

/-- The same turtle with the image of its source. -/
def mapSource (φ : σ → τ) (t : Turtle α σ) : Turtle α τ := ⟨t.cursor, t.saved, t.made, φ t.source⟩

/-- The same end of a walk with the image of the source that is left. -/
def mapEnd (φ : σ → τ) : Except (Fault × σ) (Turtle α σ) → Except (Fault × τ) (Turtle α τ)
  | .ok t => .ok (t.mapSource φ)
  | .error (fault, left) => .error (fault, φ left)

variable [Scalar α]

section Images

variable {length angle : Option α} {draw : σ → Option α × σ} {draw' : τ → Option α × τ}
  {φ : σ → τ} (same : ∀ s, draw' (φ s) = ((draw s).1, φ (draw s).2))

include same

theorem step_mapSource (index : Nat) (t : Turtle α σ) (command : Command) :
    step length angle draw' index (t.mapSource φ) command =
      mapEnd φ (step length angle draw index t command) := by
  cases command with
  | forward => cases length <;> rfl
  | turn axis backward =>
    cases angle with
    | none => rfl
    | some angle =>
      simp only [step, mapSource, same]
      rcases draw t.source with ⟨_ | sample, left⟩
      · rfl
      · simp only
        cases axis.turn? ((if backward then -angle else angle) * sample) t.cursor.heading <;> rfl
  | save => rfl
  | restore =>
    rcases t with ⟨cursor, _ | ⟨below, saved⟩, made, source⟩ <;> rfl
  | idle => rfl

theorem walk_mapSource : ∀ (w : Word) (index : Nat) (t : Turtle α σ),
    walk length angle draw' index (t.mapSource φ) w =
      mapEnd φ (walk length angle draw index t w)
  | [], _, _ => rfl
  | c :: w, index, t => by
    rw [walk_cons, walk_cons, step_mapSource same]
    cases step length angle draw index t (Command.ofSymbol c) with
    | error fault => rfl
    | ok next => exact walk_mapSource w (index + 1) next

theorem interpret_mapSource (length angle : Quantity α) (source : σ) (w : Word) :
    interpret length angle draw' (φ source) w =
      ((interpret length angle draw source w).1, φ (interpret length angle draw source w).2) := by
  by_cases positive : length.positive = true
  · have hroot : (atRoot (φ source) : Turtle α τ) = (atRoot source).mapSource φ := rfl
    unfold interpret
    rw [if_pos positive, if_pos positive, hroot, walk_mapSource same]
    rcases walk length.value? angle.value? draw 0 (atRoot source) w with ⟨fault, left⟩ | t <;> rfl
  · have hnot : length.positive = false := by simpa using positive
    rw [interpret_of_not_positive hnot, interpret_of_not_positive hnot]

end Images

/-! ### One sample for every turn -/

/-- The turtle after a turn, with what is left of its source. -/
def turned (axis : Axis) (angle : α) (left : σ) (t : Turtle α σ) : Turtle α σ :=
  { t with
    cursor := ⟨t.cursor.position, (axis.rotate angle t.cursor.heading).unit⟩
    source := left }

section Turns

variable {length angle : Option α} {draw : σ → Option α × σ} {source : σ}

/-- A turn that is made takes a sample. -/
theorem step_turn_eq_ok {index : Nat} {t next : Turtle α σ} {axis : Axis} {backward : Bool}
    (h : step length angle draw index t (.turn axis backward) = .ok next) :
    ∃ base sample left, angle = some base ∧ draw t.source = (some sample, left) ∧
      next = t.turned axis ((if backward then -base else base) * sample) left := by
  cases angle with
  | none => cases h
  | some base =>
    simp only [step] at h
    rcases hdraw : draw t.source with ⟨_ | sample, left⟩
    · rw [hdraw] at h
      cases h
    · rw [hdraw] at h
      by_cases hinf : Scalar.isInfinite ((if backward then -base else base) * sample) = true
      · simp only [Axis.turn?, if_pos hinf] at h
        cases h
      · simp only [Axis.turn?, if_neg hinf] at h
        exact ⟨base, sample, left, rfl, rfl, (Except.ok.inj h).symm⟩

variable {w : Word} (hnone : ∀ i, faultAt length angle draw source w i = none)

include hnone

/-- In a walk without a fault a turn takes the next sample of the source and
turns the heading by the base angle times that sample. -/
theorem walk_turn {i : Nat} {axis : Axis} {backward : Bool}
    (hi : w[i]?.map Command.ofSymbol = some (.turn axis backward)) {t : Turtle α σ}
    (ht : walk length angle draw 0 (atRoot source) (w.take i) = .ok t) :
    ∃ base sample left, angle = some base ∧ draw t.source = (some sample, left) ∧
      walk length angle draw 0 (atRoot source) (w.take (i + 1)) =
        .ok (t.turned axis ((if backward then -base else base) * sample) left) := by
  obtain ⟨c, hc, hcommand⟩ := Option.map_eq_some_iff.1 hi
  obtain ⟨next, hnext, -⟩ := walk_take hnone (i + 1)
  have hstep := hnext
  rw [List.take_add_one, hc, Option.toList_some, walk_append, ht] at hstep
  simp only [Except.bind, walk_singleton, hcommand] at hstep
  obtain ⟨base, sample, left, hbase, hdraw, rfl⟩ := step_turn_eq_ok hstep
  exact ⟨base, sample, left, hbase, hdraw, hnext⟩

/-- If every sample moves the source on by `next`, a walk without a fault
moves it on once for every turn. -/
theorem drawn_of_no_fault {next : σ → σ}
    (moves : ∀ s sample left, draw s = (some sample, left) → left = next s) :
    drawn draw (turnCount w) source = next^[turnCount w] source := by
  induction w using List.reverseRecOn with
  | nil => rfl
  | append_singleton u c ih =>
    have hu := no_fault_take (k := u.length) fun i _ => hnone i
    rw [List.take_left' rfl] at hu
    rw [turnCount_append, drawn_add, ih hu]
    by_cases hturn : (Command.ofSymbol c).isTurn = true
    · have hcount : turnCount [c] = 1 := by simp [turnCount, hturn]
      obtain ⟨axis, backward, hcommand⟩ := Command.eq_turn_of_isTurn hturn
      have hlast : (u ++ [c])[u.length]?.map Command.ofSymbol = some (.turn axis backward) := by
        rw [List.getElem?_concat_length, Option.map_some, hcommand]
      obtain ⟨t, hwalk, hfollows⟩ := walk_take hnone u.length
      obtain ⟨-, sample, left, -, hdraw, -⟩ := walk_turn hnone hlast hwalk
      rw [List.take_left' rfl] at hfollows
      rw [hfollows.source, ih hu] at hdraw
      rw [hcount, Function.iterate_succ_apply', ← moves _ _ _ hdraw]
      exact congrArg Prod.snd hdraw
    · have hcount : turnCount [c] = 0 := by simp [turnCount, hturn]
      rw [hcount]
      rfl

end Turns
end Turtle
end Arbor
