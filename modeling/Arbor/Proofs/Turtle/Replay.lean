/-
# A walk again from a list of samples

A walk takes as many samples as there are turns in its word, and two sources
that give the same samples up to there give the same walk: no symbol is at fault
with one of them and not with the other (`Turtle.faultAt_of_same`), and the
turtles of both walks differ in their sources only (`Turtle.walk_again`). So the
samples can be listed first (`Turtle.exists_samples`) and the word be walked with
the list afterwards (`Turtle.interpret_listed`).

Over the real numbers the turtle is steady, so that all that a turn does is to
rotate the heading about its axis (`Turtle.walk_rotates`).

Key definitions: `Turtle.listed`.
Key theorems: `Turtle.faultAt_of_same`, `Turtle.walk_again`,
`Turtle.interpret_again`, `Turtle.exists_samples`, `Turtle.interpret_listed`,
`Turtle.walk_rotates`.
-/
import Arbor.Proofs.Turtle.Heading
import Arbor.Proofs.Turtle.Image
import Arbor.Proofs.Turtle.Locality

namespace Arbor
namespace Turtle

variable {α σ τ : Type}

theorem turnCount_take_lt {w : Word} {p : Nat} {axis : Axis} {backward : Bool}
    (hp : w[p]?.map Command.ofSymbol = some (.turn axis backward)) :
    turnCount (w.take p) < turnCount w := by
  have hle : turnCount (w.take (p + 1)) ≤ turnCount w := (List.take_prefix (p + 1) w).countP_le
  rw [turnCount_take_succ hp] at hle
  exact hle

/-! ### Two sources with the same samples -/

/-- Two turtles that are alongside from the root on differ in their sources
only. -/
theorem Alongside.eq_mapSource {draw : σ → Option α × σ} {draw' : τ → Option α × τ} {source : σ}
    {source' : τ} {n : Nat} {t : Turtle α σ} {t' : Turtle α τ}
    (h : Alongside draw draw' source source' [] [] n t t') :
    t' = t.mapSource fun _ => drawn draw' n source' := by
  obtain ⟨cursor, saved, made, left⟩ := t
  obtain ⟨cursor', saved', made', left'⟩ := t'
  obtain ⟨new, hnew, hnew'⟩ := h.made
  obtain rfl : cursor = cursor' := h.cursor
  obtain rfl : saved = saved' := h.saved
  obtain rfl : made = made' := hnew.trans hnew'.symm
  obtain rfl : left' = drawn draw' n source' := h.left'
  rfl

variable [Scalar α]

section Same

variable {length angle : Option α} {draw : σ → Option α × σ} {draw' : τ → Option α × τ}
  {source : σ} {source' : τ} {w : Word}
  (same : ∀ n < turnCount w, sampleAt draw source n = sampleAt draw' source' n)

include same

theorem faultAt_of_same (i : Nat) :
    faultAt length angle draw' source' w i = faultAt length angle draw source w i := by
  unfold faultAt
  cases hc : w[i]? with
  | none => rfl
  | some c =>
    rw [Option.bind_some, Option.bind_some]
    cases hcommand : Command.ofSymbol c with
    | turn axis backward =>
      have hturn : w[i]?.map Command.ofSymbol = some (.turn axis backward) := by
        rw [hc, Option.map_some, hcommand]
      have hsample := same _ (turnCount_take_lt hturn)
      unfold sampleAt at hsample
      simp only [faultAfter, hsample]
    | forward => rfl
    | save => rfl
    | restore => rfl
    | idle => rfl

variable (hnone : ∀ i, faultAt length angle draw source w i = none)

include hnone

/-- The turtles of both walks differ in their sources only. -/
theorem walk_again (k : Nat) : ∃ t,
    walk length angle draw 0 (atRoot source) (w.take k) = .ok t ∧
    t.source = drawn draw (turnCount (w.take k)) source ∧
    walk length angle draw' 0 (atRoot source') (w.take k) =
      .ok (t.mapSource fun _ => drawn draw' (turnCount (w.take k)) source') := by
  obtain ⟨t, ht, hfollows⟩ := walk_take hnone k
  obtain ⟨t', ht', -⟩ := walk_take (fun i => (faultAt_of_same same i).trans (hnone i)) k
  have hle : turnCount (w.take k) ≤ turnCount w := (List.take_prefix k w).countP_le
  have halong := alongside_of_same (fun n hn => same n (by omega)) ht ht'
  exact ⟨t, ht, hfollows.source, halong.eq_mapSource ▸ ht'⟩

end Same

/-- A word that is walked to its end with one source is walked to the same end
with another one that gives the same samples. -/
theorem interpret_again {length angle : Quantity α} {draw : σ → Option α × σ}
    {draw' : τ → Option α × τ} {source left : σ} {source' : τ} {w : Word}
    {segments : List (Segment α)}
    (same : ∀ n < turnCount w, sampleAt draw source n = sampleAt draw' source' n)
    (h : interpret length angle draw source w = (.ok segments, left)) :
    interpret length angle draw' source' w = (.ok segments, drawn draw' (turnCount w) source') := by
  obtain ⟨positive, last, hwalk, hmade, -⟩ := interpret_eq_ok_iff.1 h
  obtain ⟨t, ht, -, ht'⟩ := walk_again same (no_fault_of_interpret h).2 w.length
  rw [List.take_length] at ht ht'
  obtain rfl : last = t := Except.ok.inj (hwalk.symm.trans ht)
  exact interpret_eq_ok_iff.2 ⟨positive, _, ht', hmade, rfl⟩

/-! ### Samples in a list -/

/-- Samples from a list. -/
def listed (samples : List α) : Nat → Option α × Nat :=
  cycle (samples.map Quantity.scalar).toArray

theorem drawn_listed (samples : List α) (n : Nat) : drawn (listed samples) n 0 = n := by
  induction n with
  | zero => rfl
  | succ n ih =>
    rw [drawn_succ, ih]
    rfl

theorem sampleAt_listed {samples : List α} {n : Nat} (hn : n < samples.length) :
    sampleAt (listed samples) 0 n = samples[n]? := by
  rw [sampleAt, drawn_listed]
  simp [listed, cycle, Nat.mod_eq_of_lt hn, hn]

section Samples

variable {length angle : Option α} {draw : σ → Option α × σ} {source : σ} {w : Word}

/-- In a walk without a fault there is a sample for every turn. -/
theorem exists_samples (hnone : ∀ i, faultAt length angle draw source w i = none) :
    ∃ samples : List α, samples.length = turnCount w ∧
      ∀ n < samples.length, sampleAt draw source n = samples[n]? := by
  induction w using List.reverseRecOn with
  | nil => exact ⟨[], rfl, fun n hn => absurd hn (Nat.not_lt_zero n)⟩
  | append_singleton u c ih =>
    have hu := no_fault_take (k := u.length) fun i _ => hnone i
    rw [List.take_left' rfl] at hu
    obtain ⟨samples, hlength, hsamples⟩ := ih hu
    rw [turnCount_append]
    by_cases hturn : (Command.ofSymbol c).isTurn = true
    · have hone : turnCount [c] = 1 := by simp [turnCount, hturn]
      obtain ⟨axis, backward, hcommand⟩ := Command.eq_turn_of_isTurn hturn
      have hlast : (u ++ [c])[u.length]?.map Command.ofSymbol = some (.turn axis backward) := by
        rw [List.getElem?_concat_length, Option.map_some, hcommand]
      obtain ⟨t, ht, hfollows⟩ := walk_take hnone u.length
      obtain ⟨-, sample, left, -, hdraw, -⟩ := walk_turn hnone hlast ht
      rw [List.take_left' rfl] at hfollows
      rw [hfollows.source, ← hlength] at hdraw
      refine ⟨samples ++ [sample], by rw [List.length_append, hlength, hone]; rfl, fun n hn => ?_⟩
      rw [List.length_append, List.length_singleton] at hn
      rcases Nat.lt_succ_iff_lt_or_eq.1 hn with hlt | rfl
      · rw [hsamples n hlt, List.getElem?_append_left hlt]
      · rw [List.getElem?_concat_length]
        exact congrArg Prod.fst hdraw
    · have hzero : turnCount [c] = 0 := by simp [turnCount, hturn]
      exact ⟨samples, by rw [hlength, hzero, Nat.add_zero], hsamples⟩

end Samples

/-- A word that is walked to its end can be walked again with the samples in a
list, one for every turn. At every position the turtles differ in their sources
only. -/
theorem interpret_listed {length angle : Quantity α} {draw : σ → Option α × σ} {source left : σ}
    {w : Word} {segments : List (Segment α)}
    (h : interpret length angle draw source w = (.ok segments, left)) :
    ∃ samples : List α, samples.length = turnCount w ∧
      (∀ n < samples.length, sampleAt draw source n = samples[n]?) ∧
      interpret length angle (listed samples) 0 w = (.ok segments, samples.length) ∧
      ∀ k, ∃ t, walk length.value? angle.value? draw 0 (atRoot source) (w.take k) = .ok t ∧
        t.source = drawn draw (turnCount (w.take k)) source ∧
        walk length.value? angle.value? (listed samples) 0 (atRoot 0) (w.take k) =
          .ok (t.mapSource fun _ => turnCount (w.take k)) := by
  obtain ⟨-, hnone⟩ := no_fault_of_interpret h
  obtain ⟨samples, hlength, hsamples⟩ := exists_samples hnone
  have same : ∀ n < turnCount w,
      sampleAt draw source n = sampleAt (listed samples) (0 : Nat) n := fun n hn => by
    rw [← hlength] at hn
    rw [hsamples n hn, sampleAt_listed hn]
  refine ⟨samples, hlength, hsamples, ?_, fun k => ?_⟩
  · rw [interpret_again same h, drawn_listed, hlength]
  · obtain ⟨t, ht, hsource, ht'⟩ := walk_again same hnone k
    rw [drawn_listed] at ht'
    exact ⟨t, ht, hsource, ht'⟩

/-! ### Over the real numbers -/

/-- On a walk over the real numbers with these samples a turn rotates the heading
about its axis, by the base angle times the next sample, forwards or backwards,
and does nothing else. -/
theorem walk_rotates {length angle : Quantity ℝ} {draw : σ → Option ℝ × σ} {source left : σ}
    {w : Word} {segments : List (Segment ℝ)}
    (h : interpret length angle draw source w = (.ok segments, left)) {samples : List ℝ}
    (hlength : samples.length = turnCount w)
    (hsamples : ∀ n < samples.length, sampleAt draw source n = samples[n]?)
    {i : Nat} {axis : Axis} {backward : Bool} (hi : w[i]? = some (axis.symbol backward))
    {t : Turtle ℝ σ}
    (ht : walk length.value? angle.value? draw 0 (atRoot source) (w.take i) = .ok t) :
    ∃ sample, samples[turnCount (w.take i)]? = some sample ∧
      walk length.value? angle.value? draw 0 (atRoot source) (w.take (i + 1)) =
        .ok { t with
          cursor := ⟨t.cursor.position,
            axis.rotate ((if backward then -1 else 1) * angle.real * sample) t.cursor.heading⟩
          source := (draw t.source).2 } := by
  obtain ⟨-, hnone⟩ := no_fault_of_interpret h
  have hturn : w[i]?.map Command.ofSymbol = some (.turn axis backward) := by
    rw [hi, Option.map_some, Command.ofSymbol_symbol]
  obtain ⟨base, sample, rest, hbase, hdraw, hnext⟩ := walk_turn hnone hturn ht
  rw [Quantity.value?_real] at hbase
  obtain rfl : angle.real = base := Option.some.inj hbase
  obtain ⟨t', ht', hfollows⟩ := walk_take hnone i
  obtain rfl : t = t' := Except.ok.inj (ht.symm.trans ht')
  obtain ⟨t', ht', hsteady, -⟩ := steady_of_interpret h i
  obtain rfl : t = t' := Except.ok.inj (ht.symm.trans ht')
  refine ⟨sample, ?_, ?_⟩
  · rw [← hsamples _ (hlength ▸ turnCount_take_lt hturn), sampleAt, ← hfollows.source, hdraw]
  · have hangle : (if backward then -angle.real else angle.real) * sample =
        (if backward then -1 else 1) * angle.real * sample := by
      cases backward <;> simp
    rw [hnext, hangle, turned, Point.unit_of_norm_one (hsteady.rotated axis _), hdraw]

end Turtle
end Arbor
