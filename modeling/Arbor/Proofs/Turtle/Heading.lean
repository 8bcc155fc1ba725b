/-
# The turtle keeps a unit heading

Over the real numbers a rotation keeps the length of the heading, so the norm
that a turn divides by is one, and the heading and all saved headings have
length one all along a walk (`Turtle.Steady.walk`). Every step forward is then
as long as it should be, and no segment ends farther from the origin than the
steps of its lineage reach (`Turtle.reach_of_joined`).

Key definitions: `Turtle.Steady`, `Turtle.lineage`.
Key theorems: `Turtle.Steady.step`, `Turtle.Steady.walk`,
`Turtle.reach_of_joined`, `Turtle.interpret_heading`.
-/
import Arbor.Proofs.Point.Norm
import Arbor.Proofs.Turtle.Parents
import Arbor.Proofs.Turtle.Source

namespace Arbor
namespace Turtle

variable {σ : Type}

/-! ### Steady turtles -/

/-- A turn leaves the heading a unit. -/
theorem norm_heading_turned {t : Turtle ℝ σ} (unit : t.cursor.heading.norm = 1) (axis : Axis)
    (angle : ℝ) (left : σ) : (t.turned axis angle left).cursor.heading.norm = 1 := by
  have hnorm := (axis.norm_rotate angle t.cursor.heading).trans unit
  show (axis.rotate angle t.cursor.heading).unit.norm = 1
  rw [Point.unit_of_norm_one hnorm, hnorm]

/-- What holds of a turtle all along a walk with steps of one length. -/
structure Steady (length : ℝ) (t : Turtle ℝ σ) : Prop where
  heading : t.cursor.heading.norm = 1
  saved : ∀ cursor ∈ t.saved, cursor.heading.norm = 1
  made : ∀ s ∈ t.made, (s.finish - s.start).norm = length

theorem steady_atRoot (length : ℝ) (source : σ) : Steady length (atRoot source : Turtle ℝ σ) :=
  ⟨Point.norm_up, nofun, nofun⟩

/-- A rotated heading has length one, so that the division by its norm does
not change it. -/
theorem Steady.rotated {length : ℝ} {t : Turtle ℝ σ} (steady : Steady length t) (axis : Axis)
    (angle : ℝ) : (axis.rotate angle t.cursor.heading).norm = 1 :=
  (axis.norm_rotate angle t.cursor.heading).trans steady.heading

section Walks

variable {length : ℝ} (positive : 0 < length) {angle : Option ℝ} {draw : σ → Option ℝ × σ}

include positive

/-- A step forward is as long as it should be. -/
theorem Steady.forward {t : Turtle ℝ σ} (steady : Steady length t) :
    (t.cursor.position + t.cursor.heading.scale length - t.cursor.position).norm = length := by
  rw [Point.add_sub_self, Point.norm_scale positive.le, steady.heading, mul_one]

/-- No step makes a turtle unsteady. -/
theorem Steady.step {index : Nat} {t next : Turtle ℝ σ} {command : Command}
    (steady : Steady length t)
    (h : Turtle.step (some length) angle draw index t command = .ok next) :
    Steady length next := by
  cases command with
  | forward =>
    cases h
    refine ⟨steady.heading, steady.saved, fun s hs => ?_⟩
    rcases List.mem_cons.1 hs with rfl | hs
    · exact steady.forward positive
    · exact steady.made s hs
  | turn axis backward =>
    obtain ⟨base, sample, left, -, -, rfl⟩ := step_turn_eq_ok h
    exact ⟨norm_heading_turned steady.heading axis _ left, steady.saved, steady.made⟩
  | save =>
    cases h
    refine ⟨steady.heading, fun cursor hcursor => ?_, steady.made⟩
    rcases List.mem_cons.1 hcursor with rfl | hcursor
    · exact steady.heading
    · exact steady.saved cursor hcursor
  | restore =>
    rcases t with ⟨cursor, _ | ⟨below, saved⟩, made, source⟩
    · cases h
    · cases h
      exact ⟨steady.saved below List.mem_cons_self,
        fun cursor hcursor => steady.saved cursor (List.mem_cons_of_mem _ hcursor), steady.made⟩
  | idle =>
    cases h
    exact steady

/-- So the turtle is steady all along a walk. -/
theorem Steady.walk : ∀ (w : Word) (index : Nat) {t next : Turtle ℝ σ}, Steady length t →
    Turtle.walk (some length) angle draw index t w = .ok next → Steady length next
  | [], _, _, _, steady, h => by
    cases h
    exact steady
  | c :: w, index, t, next, steady, h => by
    obtain ⟨after, hstep, hrest⟩ := walk_cons_eq_ok h
    exact Steady.walk w (index + 1) (steady.step positive hstep) hrest

end Walks

/-! ### How far a segment is from the origin -/

/-- The step at position `j`, its parent, the parent of that one, and so on to
the step without a parent. -/
def lineage (w : Word) (j : Nat) : List Nat :=
  match h : parent w j with
  | none => [j]
  | some p =>
    have : p < j := (parent_spec h).1
    j :: lineage w p
termination_by j

theorem lineage_of_root {w : Word} {j : Nat} (h : parent w j = none) : lineage w j = [j] := by
  rw [lineage]
  split
  · rfl
  · rename_i hp
    rw [h] at hp
    cases hp

theorem lineage_of_parent {w : Word} {j p : Nat} (h : parent w j = some p) :
    lineage w j = j :: lineage w p := by
  rw [lineage]
  split
  · rename_i hp
    rw [h] at hp
    cases hp
  · rename_i q hq
    rw [h] at hq
    cases hq
    rfl

/-- A segment starts no farther from the origin than the steps of its lineage
before it reach, and it ends no farther than all of them do. -/
theorem reach_of_joined {w : Word} {segments : List (Segment ℝ)} {length : ℝ}
    (hjoined : Joined [] [] w segments)
    (hlength : ∀ s ∈ segments, (s.finish - s.start).norm = length) (j : Nat)
    (hj : w[j]? = some 'F') :
    ∃ s, segmentAt w segments j = some s ∧
      s.start.norm ≤ length * (lineage w j).tail.length ∧
      s.finish.norm ≤ length * (lineage w j).length := by
  induction j using Nat.strongRecOn with
  | ind j ih =>
    obtain ⟨s, hs, hstart⟩ := start_eq_of_joined hjoined hj
    -- the end is one step farther than the start
    have hfinish : s.finish.norm ≤ s.start.norm + length := by
      rw [← hlength s (List.mem_of_getElem? hs)]
      exact Point.norm_le_norm_add s.start s.finish
    refine ⟨s, hs, ?_⟩
    cases hp : parent w j with
    | none =>
      rw [hp] at hstart
      rw [hstart, Point.norm_origin] at hfinish ⊢
      rw [lineage_of_root hp]
      simpa using hfinish
    | some p =>
      rw [hp] at hstart
      obtain ⟨s', hs', hstart⟩ := hstart
      obtain ⟨hpj, hF⟩ := parent_spec hp
      obtain ⟨s'', hs'', -, hreach⟩ := ih p hpj hF
      rw [hs'] at hs''
      obtain rfl : s' = s'' := Option.some.inj hs''
      rw [← hstart] at hreach
      rw [lineage_of_parent hp]
      refine ⟨hreach, hfinish.trans ?_⟩
      rw [List.length_cons, Nat.cast_succ, mul_add, mul_one]
      exact add_le_add_left hreach length

section Interpret

variable {length angle : Quantity ℝ} {draw : σ → Option ℝ × σ} {source left : σ} {w : Word}
  {segments : List (Segment ℝ)}

/-- The turtle is steady after every symbol of a word that is walked to its
end, and the segments are those of the last turtle. -/
theorem steady_of_interpret (h : interpret length angle draw source w = (.ok segments, left))
    (k : Nat) :
    ∃ t, walk length.value? angle.value? draw 0 (atRoot source) (w.take k) = .ok t ∧
      Steady length.real t ∧ (w.length ≤ k → t.made.reverse = segments) := by
  obtain ⟨positive, hnone⟩ := no_fault_of_interpret h
  obtain ⟨t, hwalk, -⟩ := walk_take hnone k
  have hsteady : Steady length.real t := by
    have hreal := hwalk
    rw [Quantity.value?_real length] at hreal
    exact Steady.walk (Quantity.positive_iff_real.1 positive) _ 0 (steady_atRoot _ source) hreal
  refine ⟨t, hwalk, hsteady, fun hk => ?_⟩
  rw [List.take_of_length_le hk] at hwalk
  rw [interpret, if_pos positive, hwalk] at h
  exact Except.ok.inj (congrArg Prod.fst h)

/-- **The turtle keeps a unit heading.** If a word is walked to its end over
the real numbers, then after each of its symbols the heading of the turtle and
those of all saved cursors have length one. Every turn rotates the heading by
the base angle times a sample, forwards or backwards, and divides it by its
norm, which is one. Every segment is as long as a step. A segment ends no
farther from the origin than as many steps reach as there are segments in its
lineage, and it starts no farther than one step less. -/
theorem interpret_heading (h : interpret length angle draw source w = (.ok segments, left)) :
    (∀ k, ∃ t, walk length.value? angle.value? draw 0 (atRoot source) (w.take k) = .ok t ∧
      t.cursor.heading.norm = 1 ∧ ∀ cursor ∈ t.saved, cursor.heading.norm = 1) ∧
    (∀ i axis backward t, w[i]?.map Command.ofSymbol = some (.turn axis backward) →
      walk length.value? angle.value? draw 0 (atRoot source) (w.take i) = .ok t →
        ∃ base sample rest, angle.value? = some base ∧ draw t.source = (some sample, rest) ∧
          let rotated := axis.rotate ((if backward then -base else base) * sample) t.cursor.heading
          rotated.norm = 1 ∧
          walk length.value? angle.value? draw 0 (atRoot source) (w.take (i + 1)) =
            .ok { t with
              cursor := ⟨t.cursor.position, rotated.dividedBy rotated.norm⟩
              source := rest }) ∧
    (∀ s ∈ segments, (s.finish - s.start).norm = length.real) ∧
    ∀ n s, segments[n]? = some s →
      ∃ j, w[j]? = some 'F' ∧ (w.take j).count 'F' = n ∧
        s.start.norm ≤ length.real * (lineage w j).tail.length ∧
        s.finish.norm ≤ length.real * (lineage w j).length := by
  have hlength : ∀ s ∈ segments, (s.finish - s.start).norm = length.real := fun s hs => by
    obtain ⟨t, -, hsteady, hmade⟩ := steady_of_interpret h w.length
    rw [← hmade le_rfl] at hs
    exact hsteady.made s (List.mem_reverse.1 hs)
  refine ⟨fun k => ?_, fun i axis backward t hi ht => ?_, hlength, fun n s hs => ?_⟩
  · obtain ⟨t, hwalk, hsteady, -⟩ := steady_of_interpret h k
    exact ⟨t, hwalk, hsteady.heading, hsteady.saved⟩
  · obtain ⟨base, sample, rest, hbase, hdraw, hnext⟩ := walk_turn (no_fault_of_interpret h).2 hi ht
    obtain ⟨t', hwalk, hsteady, -⟩ := steady_of_interpret h i
    rw [ht] at hwalk
    obtain rfl : t = t' := Except.ok.inj hwalk
    exact ⟨base, sample, rest, hbase, hdraw, hsteady.rotated axis _, hnext⟩
  · have hjoined := interpret_joined h
    have hn : n < w.count 'F' := hjoined.1 ▸ (List.getElem?_eq_some_iff.1 hs).1
    obtain ⟨j, hj, rfl⟩ := exists_position hn
    obtain ⟨s', hs', hstart, hfinish⟩ := reach_of_joined hjoined hlength j hj
    obtain rfl : s = s' := Option.some.inj (hs.symm.trans hs')
    exact ⟨j, hj, rfl, hstart, hfinish⟩

end Interpret

/-- A step up, a step in a closed group, and one after a turn. -/
theorem interpret_heading_bent :
    let w := ['F', '[', '&', 'F', ']', '+', 'F']
    ∃ segments : List (Segment ℝ),
      interpret (.scalar (2 : ℝ)) (.scalar 1) (fun n : Nat => (some 0.5, n + 1)) 0 w =
        (.ok segments, 2) ∧
      (∀ s ∈ segments, (s.finish - s.start).norm = 2) ∧ lineage w 6 = [6, 0] ∧
      ∀ s, segments[2]? = some s → s.start.norm ≤ 2 ∧ s.finish.norm ≤ 4 := by
  intro w
  have positive : (Quantity.scalar (2 : ℝ)).positive = true :=
    Quantity.positive_iff_real.2 (two_pos : (0 : ℝ) < 2)
  obtain ⟨segments, h⟩ : ∃ segments : List (Segment ℝ),
      interpret (.scalar (2 : ℝ)) (.scalar 1) (fun n : Nat => (some 0.5, n + 1)) 0 w =
        (.ok segments, 2) := by
    rw [interpret, if_pos positive]
    exact ⟨_, rfl⟩
  have hlineage : lineage w 6 = [6, 0] := by
    rw [lineage_of_parent (by decide : parent w 6 = some 0),
      lineage_of_root (by decide : parent w 0 = none)]
  have hlast : ∀ j < w.length, w[j]? = some 'F' → (w.take j).count 'F' = 2 → j = 6 := by decide
  obtain ⟨-, -, hlength, hreach⟩ := interpret_heading h
  refine ⟨segments, h, hlength, hlineage, fun s hs => ?_⟩
  obtain ⟨j, hj, hcount, hstart, hfinish⟩ := hreach 2 s hs
  obtain rfl := hlast j (List.getElem?_eq_some_iff.1 hj).1 hj hcount
  rw [hlineage] at hstart hfinish
  have htwo : (Quantity.scalar (2 : ℝ)).real = 2 := rfl
  rw [htwo] at hstart hfinish
  norm_num at hstart hfinish
  exact ⟨hstart, hfinish⟩

end Turtle
end Arbor
