/-
# What a growth leaves behind

`Tree.generate` checks, draws and writes in turns, so what a failure leaves
behind depends on where it happens. What is refused before the first draw
leaves the tree as it was (`generate_of_refused`). A walk that fails leaves the
new word, the new base angle and a generator that is one draw for the angle and
one for every sample of the jitter further on. Where the numbers of the options
are scalars (`Options.Measured`) these are all failures there are
(`generate_outcome`).

Nothing else can happen: `Growth` lists what a growth can come to, and
`growth_of_generate` takes any growth apart.

Two checks are made where they cannot fail: the walk looks at the length of a
step once more, and the flowers at a number that the tree does not give
(`generate_ne_inner`).

Key definitions: `Generator.skip`, `Options.Measured`, `angleDrawn`,
`Tree.Growth`.
Key theorems: `drawn_jitter`, `Tree.prepare_measured`, `Tree.prepare_eq_ok_iff`,
`Tree.generate_of_refused`, `Tree.generate_of_interpret_error`,
`Tree.growth_of_generate`, `Tree.generate_ne_inner`, `Tree.generate_outcome`.
-/
import Arbor.Chance.Twister
import Arbor.Proofs.Tree.Decoration
import Arbor.Proofs.Turtle.Outcome
import Arbor.Tree.Basic

namespace Arbor

variable {α γ : Type}

/-- A generator after `n` draws from the unit interval. -/
def Generator.skip [Generator γ α] (n : Nat) (g : γ) : γ := (fun g => (Generator.unit g).2)^[n] g

theorem Generator.skip_skip [Generator γ α] (m n : Nat) (g : γ) :
    skip n (skip m g) = skip (n + m) g :=
  (Function.iterate_add_apply (fun g : γ => (Generator.unit g).2) n m g).symm

/-- The numbers of the options are these scalars. -/
structure Options.Measured (o : Options α) (step center spread low high : α) : Prop where
  stepLength : o.stepLength = .scalar step
  angleCenter : o.angleCenter = .scalar center
  angleSpread : o.angleSpread = .scalar spread
  jitterLow : o.jitterLow = .scalar low
  jitterHigh : o.jitterHigh = .scalar high

variable [Generator γ α] [Scalar α]

/-- The base angle that is drawn from a generator. -/
def angleDrawn (center spread : α) (g : γ) : α :=
  Scalar.radians (center + (-spread + (spread - -spread) * (Generator.unit g).1))

/-- Every sample of the jitter between two scalars takes one draw. -/
theorem drawn_jitter (low high : α) (m n : Nat) (g : γ) :
    Turtle.drawn (Jitter.draw ⟨.scalar low, .scalar high⟩) n (Generator.skip m g) =
      Generator.skip (n + m) g :=
  Generator.skip_skip m n g

/-- The base angle takes one draw. -/
theorem baseAngle_measured {o : Options α} {step center spread low high : α}
    (measured : o.Measured step center spread low high) (g : γ) :
    baseAngle o.angleCenter o.angleSpread g =
      (some (angleDrawn center spread g), Generator.skip 1 g) := by
  rw [measured.angleCenter, measured.angleSpread, baseAngle_scalar]
  rfl

/-- With scalars for all numbers only a bracket or an infinite angle can be at
fault. -/
theorem fault_measured {step angle low high : α} {g : γ} {w : Word} {i n : Nat}
    {fault : Turtle.Fault}
    (h : Turtle.faultAt (some step) (some angle) (Jitter.draw ⟨.scalar low, .scalar high⟩) g w i =
      some (fault, n)) :
    (fault = .unmatched i ∧ n = Turtle.turnCount (w.take i)) ∨
      (fault = .turn .infiniteAngle ∧ n = Turtle.turnCount (w.take i) + 1) := by
  rcases Turtle.faultAt_cases h with ⟨hfault, hn, -⟩ | hturn | ⟨-, hnone | ⟨s, hnone⟩⟩ | ⟨-, hnone⟩
  · exact Or.inl ⟨hfault, hn⟩
  · exact Or.inr hturn
  all_goals cases hnone

theorem interpret_measured_of_firstFault {step angle low high : α} {g : γ} {w : Word} {i m n : Nat}
    {fault : Turtle.Fault} (hstep : 0.0 < step)
    (h : Turtle.FirstFault (some step) (some angle) (Jitter.draw ⟨.scalar low, .scalar high⟩)
      (Generator.skip m g) w i fault n) :
    Turtle.interpret (.scalar step) (.scalar angle) (Jitter.draw ⟨.scalar low, .scalar high⟩)
      (Generator.skip m g) w = (.error fault, Generator.skip (n + m) g) := by
  have positive : (Quantity.scalar step).positive = true := decide_eq_true hstep
  rw [← drawn_jitter low high]
  exact Turtle.interpret_of_firstFault positive h

theorem interpret_measured_of_no_fault {step angle low high : α} {g : γ} {w : Word} {m : Nat}
    (hstep : 0.0 < step)
    (h : ∀ i, Turtle.faultAt (some step) (some angle) (Jitter.draw ⟨.scalar low, .scalar high⟩)
      (Generator.skip m g) w i = none) :
    ∃ segments,
      Turtle.interpret (.scalar step) (.scalar angle) (Jitter.draw ⟨.scalar low, .scalar high⟩)
        (Generator.skip m g) w = (.ok segments, Generator.skip (Turtle.turnCount w + m) g) := by
  have positive : (Quantity.scalar step).positive = true := decide_eq_true hstep
  have hrun : ∃ segments,
      Turtle.interpret (.scalar step) (.scalar angle) (Jitter.draw ⟨.scalar low, .scalar high⟩)
        (Generator.skip m g) w = (.ok segments, _) ∧ segments.length = w.count 'F' :=
    Turtle.interpret_of_no_fault positive h
  obtain ⟨segments, hrun, -⟩ := hrun
  rw [drawn_jitter] at hrun
  exact ⟨segments, hrun⟩

namespace Tree

section Checks

variable {o : Options α} {step center spread low high : α}

/-- What has to hold before anything is drawn, where all numbers are scalars. -/
theorem prepare_measured (measured : o.Measured step center spread low high) :
    prepare o =
      if ¬ 0.0 < step then .error .stepLength
      else if ¬ 0.0 ≤ spread then .error .angleSpread
      else if ¬ (0.0 < low ∧ low ≤ high) then .error (.jitter ⟨.scalar low, .scalar high⟩)
      else
        match Grammar.expand o.start o.rules o.generations with
        | .error fault => .error (.grammar fault)
        | .ok word => .ok (word, ⟨.scalar low, .scalar high⟩) := by
  unfold prepare Jitter.ofRange
  rw [measured.stepLength, measured.angleSpread, measured.jitterLow, measured.jitterHigh]
  simp only [Quantity.positive, Quantity.notNegative, Quantity.atMost, Bool.not_eq_true',
    decide_eq_false_iff_not, Bool.and_eq_true, decide_eq_true_eq]
  split
  · rfl
  split
  · rfl
  by_cases hrange : 0.0 < low ∧ low ≤ high
  · have hchecked : ¬ ¬ (0.0 < low ∧ low ≤ high) := not_not_intro hrange
    cases Grammar.expand o.start o.rules o.generations with
    | error fault => rw [if_pos hrange, if_neg hchecked]
    | ok word => rw [if_pos hrange, if_neg hchecked]
  · rw [if_neg hrange, if_pos hrange]

/-- The options are good exactly if every check passes. -/
theorem prepare_eq_ok_iff {word : Word} {jitter : Jitter α} :
    prepare o = .ok (word, jitter) ↔
      o.stepLength.positive = true ∧ o.angleSpread.notNegative = true ∧
        Jitter.ofRange o.jitterLow o.jitterHigh = .ok jitter ∧
        Grammar.expand o.start o.rules o.generations = .ok word := by
  unfold prepare
  by_cases hstep : o.stepLength.positive = true
  · by_cases hspread : o.angleSpread.notNegative = true
    · cases Jitter.ofRange o.jitterLow o.jitterHigh with
      | error fault => simp [hstep, hspread]
      | ok range =>
        cases Grammar.expand o.start o.rules o.generations with
        | error fault => simp [hstep, hspread]
        | ok expanded => simp [hstep, hspread, and_comm]
    · simp [hstep, hspread]
  · simp [hstep]

theorem positive_of_prepare {word : Word} {jitter : Jitter α}
    (h : prepare o = .ok (word, jitter)) : o.stepLength.positive = true :=
  (prepare_eq_ok_iff.1 h).1

/-- The faults of the walk and of the flowers are not found beforehand. -/
theorem prepare_ne_inner {fault : Fault α} (h : prepare o = .error fault) :
    (∀ inner, fault ≠ .turtle inner) ∧ ∀ inner, fault ≠ .flowers inner := by
  unfold prepare at h
  repeat' split at h
  all_goals cases h
  all_goals exact ⟨nofun, nofun⟩

end Checks

section Outcome

variable {tree : Tree α γ} {word : Word} {jitter : Jitter α}

/-- What is refused before the first draw leaves the tree as it was. -/
theorem generate_of_refused {fault : Fault α} (h : prepare tree.options = .error fault) :
    generate tree = (.error fault, tree) := by
  unfold generate
  simp only [h]

theorem generate_of_no_angle {g : γ} (h : prepare tree.options = .ok (word, jitter))
    (hangle : Arbor.baseAngle tree.options.angleCenter tree.options.angleSpread tree.generator =
      (none, g)) :
    generate tree = (.error .angleOutOfRange, { tree with generator := g, word := word }) := by
  unfold generate
  simp only [h, hangle]

/-- A walk that fails leaves the segments, the leaves and the flowers as they
were, but not the word, the base angle and the generator. -/
theorem generate_of_interpret_error {angle : α} {g left : γ} {fault : Turtle.Fault}
    (h : prepare tree.options = .ok (word, jitter))
    (hangle : Arbor.baseAngle tree.options.angleCenter tree.options.angleSpread tree.generator =
      (some angle, g))
    (hrun : Turtle.interpret tree.options.stepLength (.scalar angle) jitter.draw g word =
      (.error fault, left)) :
    generate tree =
      (.error (.turtle fault),
        { tree with generator := left, word := word, baseAngle := angle }) := by
  unfold generate
  simp only [h, hangle, hrun]

theorem generate_of_interpret_ok {angle : α} {g left : γ} {segments : List (Segment α)}
    (h : prepare tree.options = .ok (word, jitter))
    (hangle : Arbor.baseAngle tree.options.angleCenter tree.options.angleSpread tree.generator =
      (some angle, g))
    (hrun : Turtle.interpret tree.options.stepLength (.scalar angle) jitter.draw g word =
      (.ok segments, left)) :
    ∃ picked last, Arbor.flowers segments none left = (.ok picked, last) ∧
      generate tree =
        (.ok segments,
          ⟨tree.options, last, word, angle, segments, tips segments, picked⟩) := by
  obtain ⟨picked, hflowers, -, -⟩ := flowers_spec segments left
  refine ⟨picked, _, hflowers, ?_⟩
  unfold generate
  simp only [h, hangle, hrun, hflowers]

/-- A growth without a fault, with the flowers that are picked. -/
theorem generate_of_flowers {angle : α} {g left last : γ} {segments : List (Segment α)}
    {picked : List (Point α)} (h : prepare tree.options = .ok (word, jitter))
    (hangle : Arbor.baseAngle tree.options.angleCenter tree.options.angleSpread tree.generator =
      (some angle, g))
    (hrun : Turtle.interpret tree.options.stepLength (.scalar angle) jitter.draw g word =
      (.ok segments, left))
    (hflowers : Arbor.flowers segments none left = (.ok picked, last)) :
    generate tree =
      (.ok segments, ⟨tree.options, last, word, angle, segments, tips segments, picked⟩) := by
  obtain ⟨picked', last', hpicked, hgenerate⟩ := generate_of_interpret_ok h hangle hrun
  rw [hflowers] at hpicked
  cases hpicked
  exact hgenerate

/-- What a growth can come to: the outcome, and the tree after it. -/
inductive Growth (tree : Tree α γ) : Except (Fault α) (List (Segment α)) → Tree α γ → Prop
  /-- The options are not good. -/
  | refused {fault : Fault α} (prepared : prepare tree.options = .error fault) :
      Growth tree (.error fault) tree
  /-- No base angle can be drawn. -/
  | angleless {word : Word} {jitter : Jitter α} {g : γ}
      (prepared : prepare tree.options = .ok (word, jitter))
      (angled : Arbor.baseAngle tree.options.angleCenter tree.options.angleSpread tree.generator =
        (none, g)) :
      Growth tree (.error .angleOutOfRange) { tree with generator := g, word := word }
  /-- The walk fails. -/
  | stopped {word : Word} {jitter : Jitter α} {angle : α} {g left : γ} {fault : Turtle.Fault}
      (prepared : prepare tree.options = .ok (word, jitter))
      (angled : Arbor.baseAngle tree.options.angleCenter tree.options.angleSpread tree.generator =
        (some angle, g))
      (walked : Turtle.interpret tree.options.stepLength (.scalar angle) jitter.draw g word =
        (.error fault, left)) :
      Growth tree (.error (.turtle fault))
        { tree with generator := left, word := word, baseAngle := angle }
  /-- All goes well. -/
  | grown {word : Word} {jitter : Jitter α} {angle : α} {g left last : γ}
      {segments : List (Segment α)} {picked : List (Point α)}
      (prepared : prepare tree.options = .ok (word, jitter))
      (angled : Arbor.baseAngle tree.options.angleCenter tree.options.angleSpread tree.generator =
        (some angle, g))
      (walked : Turtle.interpret tree.options.stepLength (.scalar angle) jitter.draw g word =
        (.ok segments, left))
      (decorated : Arbor.flowers segments none left = (.ok picked, last)) :
      Growth tree (.ok segments)
        ⟨tree.options, last, word, angle, segments, tips segments, picked⟩

theorem growth_generate (tree : Tree α γ) : Growth tree (generate tree).1 (generate tree).2 := by
  rcases hprepare : prepare tree.options with fault | ⟨word, jitter⟩
  · rw [generate_of_refused hprepare]
    exact .refused hprepare
  rcases hangle : Arbor.baseAngle tree.options.angleCenter tree.options.angleSpread
    tree.generator with ⟨_ | angle, g⟩
  · rw [generate_of_no_angle hprepare hangle]
    exact .angleless hprepare hangle
  rcases hrun : Turtle.interpret tree.options.stepLength (.scalar angle) jitter.draw g word with
    ⟨fault | segments, left⟩
  · rw [generate_of_interpret_error hprepare hangle hrun]
    exact .stopped hprepare hangle hrun
  · obtain ⟨picked, last, hflowers, hgenerate⟩ := generate_of_interpret_ok hprepare hangle hrun
    rw [hgenerate]
    exact .grown hprepare hangle hrun hflowers

theorem growth_of_generate {tree next : Tree α γ} {outcome : Except (Fault α) (List (Segment α))}
    (h : generate tree = (outcome, next)) : Growth tree outcome next := by
  have hgrowth := growth_generate tree
  rwa [h] at hgrowth

theorem grown_of_isOk {tree : Tree α γ} (h : (generate tree).1.isOk = true) :
    ∃ segments grown, generate tree = (.ok segments, grown) := by
  rcases hgrowth : generate tree with ⟨fault | segments, grown⟩
  · rw [hgrowth] at h
    cases h
  · exact ⟨segments, grown, rfl⟩

/-- The walk does not find a step length at fault that the tree has let pass,
and the flowers are not given a number that they could refuse. -/
theorem generate_ne_inner (tree : Tree α γ) :
    (generate tree).1 ≠ .error (.turtle .stepLength) ∧
      ∀ fault, (generate tree).1 ≠ .error (.flowers fault) := by
  rcases h : generate tree with ⟨outcome, next⟩
  cases growth_of_generate h with
  | refused prepared =>
    obtain ⟨hturtle, hflowers⟩ := prepare_ne_inner prepared
    exact ⟨fun h => hturtle _ (Except.error.inj h), fun inner h => hflowers _ (Except.error.inj h)⟩
  | angleless prepared angled => exact ⟨nofun, nofun⟩
  | @stopped word jitter angle g left fault prepared angled walked =>
    have hwalk : (Turtle.interpret tree.options.stepLength (.scalar angle) jitter.draw g word).1 ≠
        .error .stepLength := Turtle.interpret_ne_stepLength (positive_of_prepare prepared)
    rw [walked] at hwalk
    refine ⟨fun h => ?_, nofun⟩
    cases h
    exact hwalk rfl
  | grown prepared angled walked decorated => exact ⟨nofun, nofun⟩

/-- **What a growth leaves behind.** The checks are made in the order of the
first four parts, and a tree that fails one of them is as it was. Otherwise
the base angle is drawn and the word walked, and all that can go wrong is a
bracket or an infinite angle: the tree then has the new word, the new base
angle and the generator after one draw for the angle and one for every sample,
and else it is as it was. A growth without a fault sets everything. -/
theorem generate_outcome (tree : Tree α γ) {step center spread low high : α}
    (measured : tree.options.Measured step center spread low high) :
    (¬ 0.0 < step → generate tree = (.error .stepLength, tree)) ∧
    (0.0 < step → ¬ 0.0 ≤ spread → generate tree = (.error .angleSpread, tree)) ∧
    (0.0 < step → 0.0 ≤ spread → ¬ (0.0 < low ∧ low ≤ high) →
      generate tree = (.error (.jitter ⟨.scalar low, .scalar high⟩), tree)) ∧
    (0.0 < step → 0.0 ≤ spread → 0.0 < low ∧ low ≤ high →
      (∀ fault,
        Grammar.expand tree.options.start tree.options.rules tree.options.generations =
          .error fault →
        generate tree = (.error (.grammar fault), tree)) ∧
      ∀ word,
        Grammar.expand tree.options.start tree.options.rules tree.options.generations =
          .ok word →
        (∀ i fault n,
          Turtle.FirstFault (some step) (some (angleDrawn center spread tree.generator))
              (Jitter.draw ⟨.scalar low, .scalar high⟩) (Generator.skip 1 tree.generator) word
              i fault n →
            ((fault = .unmatched i ∧ n = Turtle.turnCount (word.take i)) ∨
              (fault = .turn .infiniteAngle ∧ n = Turtle.turnCount (word.take i) + 1)) ∧
            generate tree = (.error (.turtle fault),
              { tree with
                generator := Generator.skip (n + 1) tree.generator
                word := word
                baseAngle := angleDrawn center spread tree.generator })) ∧
        ((∀ i, Turtle.faultAt (some step) (some (angleDrawn center spread tree.generator))
            (Jitter.draw ⟨.scalar low, .scalar high⟩) (Generator.skip 1 tree.generator) word i =
              none) →
          ∃ segments picked last,
            Turtle.interpret (.scalar step) (.scalar (angleDrawn center spread tree.generator))
                (Jitter.draw ⟨.scalar low, .scalar high⟩) (Generator.skip 1 tree.generator) word =
              (.ok segments, Generator.skip (Turtle.turnCount word + 1) tree.generator) ∧
            Arbor.flowers segments none
                (Generator.skip (Turtle.turnCount word + 1) tree.generator) = (.ok picked, last) ∧
            generate tree = (.ok segments,
              ⟨tree.options, last, word, angleDrawn center spread tree.generator, segments,
                tips segments, picked⟩))) ∧
    (generate tree).1 ≠ .error (.turtle .stepLength) ∧
    ∀ fault, (generate tree).1 ≠ .error (.flowers fault) := by
  have hprepare := prepare_measured measured
  refine ⟨fun hstep => ?_, fun hstep hspread => ?_, fun hstep hspread hrange => ?_,
    fun hstep hspread hrange => ⟨fun fault hexpand => ?_, fun word hexpand => ?_⟩,
    generate_ne_inner tree⟩
  · rw [if_pos hstep] at hprepare
    exact generate_of_refused hprepare
  · rw [if_neg (not_not_intro hstep), if_pos hspread] at hprepare
    exact generate_of_refused hprepare
  · rw [if_neg (not_not_intro hstep), if_neg (not_not_intro hspread), if_pos hrange] at hprepare
    exact generate_of_refused hprepare
  · rw [if_neg (not_not_intro hstep), if_neg (not_not_intro hspread),
      if_neg (not_not_intro hrange), hexpand] at hprepare
    exact generate_of_refused hprepare
  · rw [if_neg (not_not_intro hstep), if_neg (not_not_intro hspread),
      if_neg (not_not_intro hrange), hexpand] at hprepare
    have hangle := baseAngle_measured measured tree.generator
    refine ⟨fun i fault n hfirst => ⟨fault_measured hfirst.1, ?_⟩, fun hnone => ?_⟩
    · have hrun := interpret_measured_of_firstFault hstep hfirst
      rw [← measured.stepLength] at hrun
      exact generate_of_interpret_error hprepare hangle hrun
    · obtain ⟨segments, hrun⟩ := interpret_measured_of_no_fault hstep hnone
      have hwalk := hrun
      rw [← measured.stepLength] at hwalk
      obtain ⟨picked, last, hflowers, hgenerate⟩ := generate_of_interpret_ok hprepare hangle hwalk
      exact ⟨segments, picked, last, hrun, hflowers, hgenerate⟩

/-- A word that closes what it has not opened. -/
theorem generate_outcome_unmatched :
    let tree : Tree Float Twister :=
      sapling { Options.default none with start := ['F', ']'], generations := .whole 0 }
        (Generator.seeded 7)
    tree.options.Measured 0.5 45.0 15.0 0.7 1.3 ∧
    generate tree = (.error (.turtle (.unmatched 1)),
      { tree with
        generator := Generator.skip 1 tree.generator
        word := ['F', ']']
        baseAngle := angleDrawn 45.0 15.0 tree.generator }) := by
  intro tree
  have measured : tree.options.Measured 0.5 45.0 15.0 0.7 1.3 := ⟨rfl, rfl, rfl, rfl, rfl⟩
  obtain ⟨-, -, -, hgood, -⟩ := generate_outcome tree measured
  have hwalk := ((hgood (by decide) (by decide) (by decide)).2 ['F', ']'] rfl).1
  refine ⟨measured, (hwalk 1 (.unmatched 1) 0 ⟨rfl, fun j hj => ?_⟩).2⟩
  obtain rfl : j = 0 := by omega
  rfl

end Outcome

end Tree
end Arbor
