/-
# A walk in parts

What a step does depends on its position only if it finds an unmatched bracket
(`step_mapError`), so a walk that ends well is the same wherever its word
stands (`walk_ok_at`). It can be cut anywhere, and a part of it can be replaced
by another one that comes to the same turtle (`walk_append_eq_ok`).

Key definitions: `Turtle.Fault.placed`.
Key theorems: `Turtle.step_mapError`, `Turtle.walk_ok_at`,
`Turtle.walk_append_eq_ok`, `Turtle.interpret_eq_ok_iff`,
`Turtle.interpret_cut`.
-/
import Arbor.Proofs.Turtle.Outcome

namespace Arbor
namespace Turtle

/-- The same fault, with every position where it has been placed. -/
def Fault.placed (place : Nat → Nat) : Fault → Fault
  | unmatched i => unmatched (place i)
  | fault => fault

variable {α σ : Type} [Scalar α]

section Walks

variable {length angle : Option α} {draw : σ → Option α × σ}

/-- A step does the same at another position, unless it finds a bracket
unmatched. -/
theorem step_mapError (place : Nat → Nat) (i : Nat) (t : Turtle α σ) (command : Command) :
    step length angle draw (place i) t command =
      (step length angle draw i t command).mapError fun e => (e.1.placed place, e.2) := by
  cases command with
  | forward => cases length <;> rfl
  | turn axis backward =>
    cases angle with
    | none => rfl
    | some angle =>
      simp only [step]
      rcases draw t.source with ⟨_ | sample, left⟩
      · rfl
      · simp only
        cases axis.turn? ((if backward then -angle else angle) * sample) t.cursor.heading <;> rfl
  | save => rfl
  | restore =>
    rcases t with ⟨cursor, _ | ⟨below, saved⟩, made, source⟩ <;> rfl
  | idle => rfl

/-- A walk that ends well is the same at another position. -/
theorem walk_ok_at : ∀ {w : Word} {i : Nat} (j : Nat) {t last : Turtle α σ},
    walk length angle draw i t w = .ok last → walk length angle draw j t w = .ok last
  | [], _, _, _, _, h => h
  | c :: w, i, j, t, last, h => by
    obtain ⟨next, hstep, hrest⟩ := walk_cons_eq_ok h
    have hmoved : step length angle draw j t (Command.ofSymbol c) = _ :=
      step_mapError (fun _ => j) i t (Command.ofSymbol c)
    rw [walk_cons, hmoved, hstep]
    exact walk_ok_at (j + 1) hrest

/-- A walk ends well if both its parts do. -/
theorem walk_append_eq_ok (i j k : Nat) {t last : Turtle α σ} {u v : Word} :
    walk length angle draw i t (u ++ v) = .ok last ↔
      ∃ middle, walk length angle draw j t u = .ok middle ∧
        walk length angle draw k middle v = .ok last := by
  rw [walk_append]
  constructor
  · intro h
    cases hfirst : walk length angle draw i t u with
    | error fault =>
      rw [hfirst] at h
      cases h
    | ok middle =>
      rw [hfirst] at h
      exact ⟨middle, walk_ok_at j hfirst, walk_ok_at k h⟩
  · rintro ⟨middle, hfirst, hrest⟩
    rw [walk_ok_at i hfirst]
    exact walk_ok_at (i + u.length) hrest

end Walks

theorem interpret_eq_ok_iff {length angle : Quantity α} {draw : σ → Option α × σ} {source left : σ}
    {w : Word} {segments : List (Segment α)} :
    interpret length angle draw source w = (.ok segments, left) ↔
      length.positive = true ∧ ∃ last,
        walk length.value? angle.value? draw 0 (atRoot source) w = .ok last ∧
          last.made.reverse = segments ∧ last.source = left := by
  unfold interpret
  by_cases positive : length.positive = true
  · rw [if_pos positive]
    cases walk length.value? angle.value? draw 0 (atRoot source) w with
    | error fault => simp
    | ok last => simp [positive]
  · simp [positive]

/-- A walk that ends well, cut at a position. -/
theorem interpret_cut {length angle : Quantity α} {draw : σ → Option α × σ} {source left : σ}
    {w : Word} {segments : List (Segment α)}
    (h : interpret length angle draw source w = (.ok segments, left)) (m : Nat) :
    ∃ t last, walk length.value? angle.value? draw 0 (atRoot source) (w.take m) = .ok t ∧
      Follows draw source (w.take m) t ∧
      walk length.value? angle.value? draw 0 t (w.drop m) = .ok last ∧
      last.made.reverse = segments := by
  obtain ⟨t, ht, hfollows⟩ := walk_take (no_fault_of_interpret h).2 m
  obtain ⟨-, last, hlast, hmade, -⟩ := interpret_eq_ok_iff.1 h
  rw [← List.take_append_drop m w] at hlast
  obtain ⟨t', ht', hrest⟩ := (walk_append_eq_ok 0 0 0).1 hlast
  obtain rfl : t = t' := Except.ok.inj (ht.symm.trans ht')
  exact ⟨t, last, ht, hfollows, hrest, hmade⟩

end Turtle
end Arbor
