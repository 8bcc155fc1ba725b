/-
# What the command line comes to

With no path to export to and no picture wanted, the command line either
complains once, prints nothing and ends with the code two, or prints the
three lines that tell how large the mimosa is and ends with the code zero.
It complains exactly when the length of a step is not greater than zero, an
undefined one included, or the number of generations is negative; the length
is checked first. Nothing else can go wrong, and the sizes are those of the
closed form of the grammar.

Key theorems: `Program.run_prints`, `CommandLine.growTree_of_step`,
`CommandLine.growTree_of_generations`, `CommandLine.growTree_of_good`,
`CommandLine.grow_outcome`.
-/
import Arbor.CommandLine.Grow
import Arbor.Proofs.Tree.Mimosa

namespace Arbor

/-- Lines that are printed one after the other. -/
theorem Program.run_prints {ω : Type}
    (exporter : Mesh Float → List Char → ω → Except Export.Fault Unit × ω) (lines : List String)
    (rest : Program) (record : Record ω) :
    (Program.prints lines rest).run exporter record =
      rest.run exporter { record with printed := record.printed ++ lines } := by
  induction lines generalizing record with
  | nil => simp [Program.prints]
  | cons line lines ih =>
    have hnext := ih { record with printed := record.printed ++ [line] }
    rw [List.append_assoc] at hnext
    exact hnext

namespace CommandLine

variable {γ : Type} [Generator γ Float]

/-- The options that the command line makes are those of a mimosa. -/
theorem isMimosa_optionsOf (seed : Option Int) (generations : Int) (step : Float) :
    (optionsOf seed (.whole generations) step).IsMimosa generations step :=
  ⟨⟨rfl, rfl, rfl, rfl, rfl⟩, rfl, rfl, rfl⟩

section Quiet

variable (entropy : Int) (seed : Option Int) (generations : Int) (step : Float)

/-- Options at fault are told, and that is all. -/
theorem growTree_refused {fault : Tree.Fault Float}
    (h : Tree.prepare (optionsOf seed (.whole generations) step) = .error fault)
    (told : isConfigFault fault = true) (path : Option (List Char)) (plot : Bool) :
    growTree γ entropy ⟨.value seed, .value generations, .value step, path, plot⟩ =
      .complain ("Config error: " ++ fault.message) (.stop (.exit 2)) := by
  have hgrown : Tree.generate (Tree.plant (optionsOf seed (.whole generations) step) entropy :
      Tree Float γ) = (.error fault, _) := Tree.generate_of_refused h
  unfold growTree
  simp only [generationsOf, hgrown, told, if_true]

/-- A tree that has grown is told by its size. -/
theorem growTree_grown {segments : List (Segment Float)} {grown : Tree Float γ}
    (h : Tree.generate (Tree.plant (optionsOf seed (.whole generations) step) entropy) =
      (.ok segments, grown)) :
    growTree γ entropy ⟨.value seed, .value generations, .value step, none, false⟩ =
      Program.prints (summary (.whole generations) grown) (.stop (.exit 0)) := by
  unfold growTree
  simp only [generationsOf, h]
  rfl

/-! ### The three ways it can go -/

theorem growTree_of_step (bad : ¬ 0.0 < step) :
    growTree γ entropy ⟨.value seed, .value generations, .value step, none, false⟩ =
      .complain "Config error: step_length must be > 0" (.stop (.exit 2)) := by
  have hprepare := Tree.prepare_mimosa (isMimosa_optionsOf seed generations step)
  rw [if_pos bad] at hprepare
  exact growTree_refused entropy seed generations step hprepare rfl none false

theorem growTree_of_generations (good : 0.0 < step) (bad : generations < 0) :
    growTree γ entropy ⟨.value seed, .value generations, .value step, none, false⟩ =
      .complain "Config error: generations must be >= 0" (.stop (.exit 2)) := by
  have hprepare := Tree.prepare_mimosa (isMimosa_optionsOf seed generations step)
  rw [if_neg (not_not_intro good), if_pos bad] at hprepare
  exact growTree_refused entropy seed generations step hprepare rfl none false

/-- A mimosa that can grow does, whatever scalars of the unit interval are
drawn. -/
theorem growTree_of_good (bounded : Generator.Bounded γ) (good : 0.0 < step)
    (count : 0 ≤ generations) :
    growTree γ entropy ⟨.value seed, .value generations, .value step, none, false⟩ =
      Program.prints
        ["Expanded " ++ toString generations ++ " generations into " ++
            Places.grouped (1 + 20 * (8 ^ generations.toNat - 1) / 7) ++ " symbols",
          "Base angle: " ++ Places.fixed 1 (Scalar.degrees (angleDrawn 45.0 15.0
            (Generator.seeded (seed.getD entropy) : γ))) ++ " deg",
          "Generated " ++ Places.grouped (8 ^ generations.toNat) ++ " branches, " ++
            Places.grouped (8 ^ generations.toNat) ++ " leaves, " ++
            Places.grouped ((8 ^ generations.toNat + 1) / 2) ++ " flowers"]
        (.stop (.exit 0)) := by
  obtain ⟨segments, grown, hgenerate, hword, hangle, hsegments, hleaves, hflowers⟩ :=
    Tree.generate_mimosa bounded (isMimosa_optionsOf seed generations step) count good
      (Generator.seeded (seed.getD entropy) : γ)
  rw [growTree_grown entropy seed generations step hgenerate, summary, hword, hangle, hsegments,
    hleaves, hflowers]
  rfl

end Quiet

/-- **Outcome of the command line.** With no path to export to and no picture,
it complains and ends with the code two exactly if the length of a step is not
greater than zero or the number of generations is negative, and tells the
first of the two. Otherwise it prints the closed form of the sizes and ends
with the code zero. -/
theorem grow_outcome {ω : Type}
    (exporter : Mesh Float → List Char → ω → Except Export.Fault Unit × ω) (record : Record ω)
    (entropy : Int) {words : List (List Char)} {seed : Option Int} {generations : Int}
    {step : Float}
    (given : readArguments words =
      .arguments ⟨.value seed, .value generations, .value step, none, false⟩)
    (bounded : Generator.Bounded γ) :
    let ran := (grow γ entropy words).run exporter record
    (ran.2 = .exit 2 ↔ ¬ 0.0 < step ∨ generations < 0) ∧
    (¬ 0.0 < step →
      ran = ({ record with
        complaints := record.complaints ++ ["Config error: step_length must be > 0"] }, .exit 2)) ∧
    (0.0 < step → generations < 0 →
      ran = ({ record with
        complaints := record.complaints ++ ["Config error: generations must be >= 0"] },
        .exit 2)) ∧
    (0.0 < step → 0 ≤ generations →
      ran = ({ record with
        printed := record.printed ++
          ["Expanded " ++ toString generations ++ " generations into " ++
              Places.grouped (1 + 20 * (8 ^ generations.toNat - 1) / 7) ++ " symbols",
            "Base angle: " ++ Places.fixed 1 (Scalar.degrees (angleDrawn 45.0 15.0
              (Generator.seeded (seed.getD entropy) : γ))) ++ " deg",
            "Generated " ++ Places.grouped (8 ^ generations.toNat) ++ " branches, " ++
              Places.grouped (8 ^ generations.toNat) ++ " leaves, " ++
              Places.grouped ((8 ^ generations.toNat + 1) / 2) ++ " flowers"] }, .exit 0)) := by
  intro ran
  have hran : ran = (growTree γ entropy
      ⟨.value seed, .value generations, .value step, none, false⟩).run exporter record := by
    show (grow γ entropy words).run exporter record = _
    unfold grow
    rw [given]
  have hstep : ¬ 0.0 < step → ran = ({ record with
      complaints := record.complaints ++ ["Config error: step_length must be > 0"] }, .exit 2) := by
    intro bad
    rw [hran, growTree_of_step entropy seed generations step bad]
    rfl
  have hgenerations : 0.0 < step → generations < 0 → ran = ({ record with
      complaints := record.complaints ++ ["Config error: generations must be >= 0"] },
      .exit 2) := by
    intro good bad
    rw [hran, growTree_of_generations entropy seed generations step good bad]
    rfl
  refine ⟨⟨?_, ?_⟩, hstep, hgenerations, ?_⟩
  · intro hexit
    by_contra hboth
    rw [not_or, not_not, not_lt] at hboth
    rw [hran, growTree_of_good entropy seed generations step bounded hboth.1 hboth.2,
      Program.run_prints] at hexit
    injection hexit with hcode
    cases hcode
  · intro hbad
    by_cases good : 0.0 < step
    · rw [hgenerations good (hbad.resolve_left (not_not_intro good))]
    · rw [hstep good]
  · intro good count
    rw [hran, growTree_of_good entropy seed generations step bounded good count,
      Program.run_prints]
    rfl

/-- One generation of a seeded mimosa on the twister: eight branches. -/
theorem grow_outcome_seeded :
    let words := ["--seed", "7", "--generations", "1", "--no-plot"].map String.toList
    let angle := angleDrawn 45.0 15.0 (Generator.seeded 7 : Twister)
    readArguments words = .arguments ⟨.value (some 7), .value 1, .value 0.5, none, false⟩ ∧
    Generator.Bounded Twister ∧
    (grow Twister 0 words).run (fun _ _ files => (.ok (), files)) ⟨[], [], [], ()⟩ =
      (⟨["Expanded 1 generations into 21 symbols",
          "Base angle: " ++ Places.fixed 1 (Scalar.degrees angle) ++ " deg",
          "Generated 8 branches, 8 leaves, 4 flowers"], [], [], ()⟩, .exit 0) := by
  intro words angle
  have given : readArguments words =
      .arguments ⟨.value (some 7), .value 1, .value 0.5, none, false⟩ := rfl
  have hstep : (0.0 : Float) < 0.5 := by decide
  obtain ⟨-, -, -, hgrown⟩ := grow_outcome (fun _ _ files => (.ok (), files))
    ⟨[], [], [], ()⟩ 0 given Twister.bounded
  exact ⟨given, Twister.bounded, hgrown hstep (by decide)⟩

end CommandLine
end Arbor
