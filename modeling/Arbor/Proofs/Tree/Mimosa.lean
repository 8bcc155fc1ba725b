/-
# The mimosa always grows

With the grammar, the angles and the jitter of the mimosa nothing can fail
once the length of a step and the number of generations are good: every
generation closes its brackets, and no turn comes near an infinite angle,
because a base angle is below `2 ^ 2` and a sample below `2 ^ 1` whatever
scalars of the unit interval are drawn. So the tree after a growth can be
counted: a branch for every `F`, a leaf for every branch and a flower for
every two of them.

Key definitions: `Options.IsMimosa`.
Key theorems: `Turtle.no_fault_of_closable`, `turn_finite`,
`Tree.prepare_ranged`, `Tree.prepare_mimosa`, `Tree.generate_mimosa`.
-/
import Arbor.Proofs.Chance.Unit
import Arbor.Proofs.Grammar.Counts
import Arbor.Proofs.Tree.Growth

namespace Arbor

/-- A closable word faults only at a turn whose angle is infinite. -/
theorem Turtle.no_fault_of_closable {α σ : Type} [Scalar α] {length angle : α}
    {draw : σ → Option α × σ} {w : Word} (closable : Bracket.Closable w)
    (finite : ∀ (backward : Bool) (s : σ), ∃ sample, (draw s).1 = some sample ∧
      Scalar.isInfinite ((if backward then -angle else angle) * sample) = false)
    (source : σ) (i : Nat) :
    faultAt (some length) (some angle) draw source w i = none := by
  unfold faultAt
  cases hc : w[i]? with
  | none => rfl
  | some c =>
    rw [Option.bind_some]
    cases hcommand : Command.ofSymbol c with
    | forward => rfl
    | turn axis backward =>
      obtain ⟨sample, hsample, hfinite⟩ :=
        finite backward (drawn draw (turnCount (w.take i)) source)
      simp only [faultAfter, hsample, hfinite, Bool.false_eq_true, if_false]
    | save => rfl
    | restore =>
      have hbracket : c = ']' := Command.ofSymbol_inj (d := ']') hcommand (by decide)
      have hi : i < w.length := (List.getElem?_eq_some_iff.1 hc).1
      have hnext : w.take (i + 1) = w.take i ++ [']'] := by
        rw [List.take_add_one, hc, hbracket]
        rfl
      have hheight := (closable.of_prefix (List.take_prefix (i + 1) w)).height_nonneg
      rw [hnext, Bracket.height_append, Bracket.height_close] at hheight
      have hopen : Bracket.height (w.take i) ≠ 0 := by omega
      simp [faultAfter, hopen]
    | idle => rfl

section Angles

variable {γ : Type} [Generator γ Float] (bounded : Generator.Bounded γ)

include bounded

theorem within_unit (g : γ) : Binary.within 0 (Generator.unit g).1 :=
  (Binary.unit_iff.1 (bounded g)).1

/-- The base angle of a mimosa: at most sixty degrees, so below four
radians. -/
theorem within_angleDrawn (g : γ) : Binary.within 2 (angleDrawn 45.0 15.0 g) := by
  have hwidth : Binary.within 5 ((15.0 : Float) - -15.0) := by decide
  have hspread : Binary.within 5 (-15.0 : Float) := by decide
  have hcenter : Binary.within 6 (45.0 : Float) := by decide
  have hradians : Binary.within (-5) (Scalar.pi / (180.0 : Float)) := by decide
  have hdrawn : Binary.within 5 (((15.0 : Float) - -15.0) * (Generator.unit g).1) :=
    Binary.within_mul (by decide) (by decide) hwidth (within_unit bounded g)
  have hoffset : Binary.within 6 (-15.0 + ((15.0 : Float) - -15.0) * (Generator.unit g).1) :=
    Binary.within_add (by decide) hspread hdrawn
  have hdegrees : Binary.within 7
      (45.0 + (-15.0 + ((15.0 : Float) - -15.0) * (Generator.unit g).1)) :=
    Binary.within_add (by decide) hcenter hoffset
  exact Binary.within_mul (by decide) (by decide) hdegrees hradians

/-- The samples of the jitter of a mimosa. -/
theorem within_sample (g : γ) :
    Binary.within 1 ((0.7 : Float) + (1.3 - 0.7) * (Generator.unit g).1) := by
  have hlow : Binary.within 0 (0.7 : Float) := by decide
  have hwidth : Binary.within 0 ((1.3 : Float) - 0.7) := by decide
  have hdrawn : Binary.within 0 (((1.3 : Float) - 0.7) * (Generator.unit g).1) :=
    Binary.within_mul (by decide) (by decide) hwidth (within_unit bounded g)
  exact Binary.within_add (by decide) hlow hdrawn

/-- No turn of a mimosa has an infinite angle. -/
theorem turn_finite (g : γ) (backward : Bool) (s : γ) :
    ∃ sample, (Jitter.draw ⟨.scalar (0.7 : Float), .scalar 1.3⟩ s).1 = some sample ∧
      Scalar.isInfinite
        ((if backward then -angleDrawn 45.0 15.0 g else angleDrawn 45.0 15.0 g) * sample) =
          false := by
  refine ⟨_, rfl, ?_⟩
  have hangle := within_angleDrawn bounded g
  have hsample := within_sample bounded s
  have hturned : Binary.within 2
      (if backward then -angleDrawn 45.0 15.0 g else angleDrawn 45.0 15.0 g) := by
    cases backward with
    | false => exact hangle
    | true => exact Binary.within_neg (by decide) hangle
  have hproduct := Binary.within_mul (by decide) (by decide) hturned hsample
  exact Binary.isInf_of_within hproduct

end Angles

/-- The options are those of a mimosa, but for the seed, the number of
generations and the length of a step. -/
structure Options.IsMimosa (o : Options Float) (generations : Int) (step : Float) : Prop extends
    o.Measured step 45.0 15.0 0.7 1.3 where
  start : o.start = mimosaStart
  rules : o.rules = mimosaRules
  generations : o.generations = .whole generations

namespace Tree

variable {o : Options Float} {generations : Int} {step : Float}

/-- With the ranges of a mimosa only the length of a step and the grammar can be
at fault. -/
theorem prepare_ranged (measured : o.Measured step 45.0 15.0 0.7 1.3) :
    prepare o =
      if ¬ 0.0 < step then .error .stepLength
      else
        match Grammar.expand o.start o.rules o.generations with
        | .error fault => .error (.grammar fault)
        | .ok word => .ok (word, ⟨.scalar 0.7, .scalar 1.3⟩) := by
  have hspread : ¬ ¬ (0.0 : Float) ≤ 15.0 := by decide
  have hrange : ¬ ¬ ((0.0 : Float) < 0.7 ∧ (0.7 : Float) ≤ 1.3) := by decide
  have hmeasured := prepare_measured measured
  rw [if_neg hspread, if_neg hrange] at hmeasured
  exact hmeasured

/-- The length of a step is checked before the number of generations, and
nothing else can be at fault. -/
theorem prepare_mimosa (mimosa : o.IsMimosa generations step) :
    prepare o =
      if ¬ 0.0 < step then .error .stepLength
      else if generations < 0 then .error (.grammar .generationsNegative)
      else .ok (Grammar.descend mimosaRules generations.toNat mimosaStart,
        ⟨.scalar 0.7, .scalar 1.3⟩) := by
  have hexpand : Grammar.expand mimosaStart mimosaRules (.whole generations) =
      if generations < 0 then .error .generationsNegative
      else .ok (Grammar.descend mimosaRules generations.toNat mimosaStart) := by
    by_cases hneg : generations < 0
    · simp [Grammar.expand, Grammar.check, hneg]
    · have hcast : (generations.toNat : Int) = generations := Int.toNat_of_nonneg (by omega)
      rw [if_neg hneg, ← Grammar.expand_mimosa, hcast]
  rw [prepare_ranged mimosa.toMeasured, mimosa.start, mimosa.rules, mimosa.generations, hexpand]
  by_cases hneg : generations < 0
  · rw [if_pos hneg, if_pos hneg]
  · rw [if_neg hneg, if_neg hneg]

/-- A mimosa grows whatever is drawn, and its parts can be counted. -/
theorem generate_mimosa {γ : Type} [Generator γ Float] (bounded : Generator.Bounded γ)
    (mimosa : o.IsMimosa generations step) (hgenerations : 0 ≤ generations) (hstep : 0.0 < step)
    (g : γ) :
    ∃ segments grown, generate (sapling o g) = (.ok segments, grown) ∧
      grown.word.length = 1 + 20 * (8 ^ generations.toNat - 1) / 7 ∧
      grown.baseAngle = angleDrawn 45.0 15.0 g ∧
      grown.segments.length = 8 ^ generations.toNat ∧
      grown.leaves.length = 8 ^ generations.toNat ∧
      grown.flowers.length = (8 ^ generations.toNat + 1) / 2 := by
  have hprepare : prepare (sapling o g : Tree Float γ).options =
      .ok (Grammar.descend mimosaRules generations.toNat mimosaStart,
        ⟨.scalar 0.7, .scalar 1.3⟩) := by
    rw [sapling, prepare_mimosa mimosa, if_neg (not_not_intro hstep),
      if_neg (Int.not_lt.2 hgenerations)]
  -- the walk cannot fail, so it makes a segment for every `F`
  have hnone : ∀ i, Turtle.faultAt (Quantity.scalar step).value?
      (Quantity.scalar (angleDrawn 45.0 15.0 g)).value? (Jitter.draw ⟨.scalar 0.7, .scalar 1.3⟩)
      (Generator.skip 1 g) (Grammar.descend mimosaRules generations.toNat mimosaStart) i = none :=
    Turtle.no_fault_of_closable (Grammar.closable_mimosa generations.toNat)
      (turn_finite bounded g) (Generator.skip 1 g)
  have positive : (Quantity.scalar step).positive = true := decide_eq_true hstep
  obtain ⟨segments, hrun, hcount⟩ := Turtle.interpret_of_no_fault positive hnone
  rw [Grammar.count_mimosa] at hcount
  rw [← mimosa.stepLength] at hrun
  obtain ⟨picked, last, hpicked, hgrown⟩ :=
    generate_of_interpret_ok hprepare (baseAngle_measured mimosa.toMeasured g) hrun
  obtain ⟨picked', hpicked', hflowers, -⟩ := flowers_spec segments
    (Turtle.drawn (Jitter.draw ⟨.scalar 0.7, .scalar 1.3⟩)
      (Turtle.turnCount (Grammar.descend mimosaRules generations.toNat mimosaStart))
      (Generator.skip 1 g))
  obtain rfl : picked = picked' := by
    rw [hpicked'] at hpicked
    exact (Except.ok.inj (congrArg Prod.fst hpicked)).symm
  refine ⟨segments, _, hgrown, Grammar.length_mimosa _, rfl, hcount, ?_, ?_⟩
  · show (tips segments).length = 8 ^ generations.toNat
    rw [tips_eq_map, List.length_map, hcount]
  · show picked.length = (8 ^ generations.toNat + 1) / 2
    rw [hflowers, hcount]

end Tree
end Arbor
