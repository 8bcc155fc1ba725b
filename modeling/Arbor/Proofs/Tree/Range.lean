/-
# Every turn keeps to its range

A growth draws its base angle from one range and the samples of its turns from
another one, and it has checked beforehand that neither range is upside down. So
over the real numbers no angle is out of range, however long the word is and
whatever is saved and gone back to on the way: the walk is one with a list of
samples, one for every turn, and all of them are between the two ends of the
jitter.

Over the real numbers only a bracket can be at fault on a walk, so that a tree
with good options grows if its word can be closed (`Tree.grown_of_closable`).

Key theorems: `Tree.grown_of_closable`, `Tree.generate_in_range`.
-/
import Mathlib
import Arbor.Proofs.Chance.Exact
import Arbor.Proofs.Chance.Range
import Arbor.Proofs.Tree.Draws
import Arbor.Proofs.Tree.Mimosa
import Arbor.Proofs.Turtle.Replay

namespace Arbor
namespace Tree

variable {γ : Type} [Generator γ ℝ]

theorem grown_of_closable {tree : Tree ℝ γ} {word : Word} {jitter : Jitter ℝ}
    (h : prepare tree.options = .ok (word, jitter)) (closable : Bracket.Closable word) :
    ∃ segments grown, generate tree = (.ok segments, grown) := by
  obtain ⟨angle, left, hangle⟩ : ∃ angle left,
      Arbor.baseAngle tree.options.angleCenter tree.options.angleSpread tree.generator =
        (some angle, left) := by
    unfold Arbor.baseAngle
    simp only [Generator.uniform_real, Quantity.value?_real]
    exact ⟨_, _, rfl⟩
  have hnone : ∀ i, Turtle.faultAt tree.options.stepLength.value? (Quantity.scalar angle).value?
      jitter.draw left word i = none := by
    rw [Quantity.value?_real]
    refine Turtle.no_fault_of_closable closable (fun backward g => ?_) left
    exact ⟨_, congrArg Prod.fst (Generator.uniform_real jitter.low jitter.high g),
      Scalar.isInfinite_real _⟩
  obtain ⟨segments, hrun, -⟩ := Turtle.interpret_of_no_fault (positive_of_prepare h) hnone
  obtain ⟨picked, last, -, hgrown⟩ := generate_of_interpret_ok h hangle hrun
  exact ⟨segments, _, hgrown⟩

/-- **Every turn keeps to its range.** Over the real numbers, let a generator
keep to the unit interval. If a tree grows, its base angle is no farther from the
center than the spread. There is a list of samples, one for every turn of the
word, all of them between the ends of the jitter, and the walk of the tree is the
walk over its word with that list: the segments are the same, and so are the
turtles at every position. A turn rotates the heading about its own axis, by the
base angle times the next sample of the list, forwards at `+`, `&` and `\`,
backwards at `-`, `^` and `/`. -/
theorem generate_in_range
    (unit_mem : ∀ g : γ, (Generator.unit g).1 ∈ Set.Ico (0 : ℝ) 1)
    {tree grown : Tree ℝ γ} {segments : List (Segment ℝ)}
    (h : generate tree = (.ok segments, grown)) :
    let o := tree.options
    grown.baseAngle ∈ Set.Icc (Scalar.radians (o.angleCenter.real - o.angleSpread.real))
      (Scalar.radians (o.angleCenter.real + o.angleSpread.real)) ∧
    ∃ samples : List ℝ, samples.length = Turtle.turnCount grown.word ∧
      (∀ m ∈ samples, m ∈ Set.Icc o.jitterLow.real o.jitterHigh.real) ∧
      Turtle.interpret o.stepLength (.scalar grown.baseAngle) (Turtle.listed samples) 0
          grown.word =
        (.ok segments, samples.length) ∧
      ∀ i, ∃ t, walkTo tree grown i = .ok t ∧
        Turtle.walk o.stepLength.value? (some grown.baseAngle) (Turtle.listed samples) 0
            (Turtle.atRoot 0) (grown.word.take i) =
          .ok (t.mapSource fun _ => Turtle.turnCount (grown.word.take i)) ∧
        ∀ (axis : Axis) (backward : Bool), grown.word[i]? = some (axis.symbol backward) →
          ∃ m, samples[Turtle.turnCount (grown.word.take i)]? = some m ∧
            walkTo tree grown (i + 1) = .ok { t with
              cursor := ⟨t.cursor.position,
                axis.rotate ((if backward then -1 else 1) * grown.baseAngle * m)
                  t.cursor.heading⟩
              source := (Generator.unit t.source).2 } := by
  intro o
  cases growth_of_generate h with
  | @grown word jitter angle g left last _ picked prepared angled walked decorated =>
    obtain ⟨-, hspread, hjitter, -⟩ := prepare_eq_ok_iff.1 prepared
    obtain ⟨-, hle⟩ := Jitter.le_of_ofRange hjitter
    obtain rfl := Jitter.eq_of_ofRange hjitter
    obtain ⟨_, _, -, hoffset, -⟩ := Generator.baseAngle_eq_some angled
    obtain rfl : g = Generator.skip 1 tree.generator := Generator.uniform_eq_some hoffset
    obtain ⟨samples, hlength, hsamples, hlisted, hturtles⟩ := Turtle.interpret_listed walked
    refine ⟨Generator.baseAngle_mem unit_mem (Quantity.notNegative_iff_real.1 hspread) angled,
      samples, hlength, fun m hm => ?_, hlisted, fun i => ?_⟩
    · obtain ⟨n, hn, rfl⟩ := List.getElem_of_mem hm
      have hdraw := hsamples n hn
      rw [List.getElem?_eq_getElem hn] at hdraw
      exact Generator.uniform_mem unit_mem hle (Prod.ext hdraw rfl)
    · obtain ⟨t, ht, -, hagain⟩ := hturtles i
      refine ⟨t, ht, hagain, fun axis backward hi => ?_⟩
      obtain ⟨m, hm, hnext⟩ := Turtle.walk_rotates walked hlength hsamples hi ht
      have hsource : (Jitter.draw ⟨o.jitterLow, o.jitterHigh⟩ t.source).2 =
          (Generator.unit t.source).2 :=
        congrArg Prod.snd (Generator.uniform_real o.jitterLow o.jitterHigh t.source)
      rw [hsource] at hnext
      exact ⟨m, hm, hnext⟩

/-- A branch with a twig: its base angle is between 30 and 60 degrees, and the
one turn is that angle times a sample between 0.7 and 1.3. -/
theorem generate_in_range_twig :
    let twig : Options ℝ :=
      { Options.default (some 7) with start := ['F', '[', '+', 'F', ']'], generations := .whole 0 }
    ∃ segments grown, generate (plant twig 0 : Tree ℝ ExactTwister) = (.ok segments, grown) ∧
      grown.baseAngle ∈ Set.Icc (Scalar.radians 30) (Scalar.radians 60) ∧
      ∃ m ∈ Set.Icc (0.7 : ℝ) 1.3,
        Turtle.interpret (.scalar 0.5) (.scalar grown.baseAngle) (Turtle.listed [m]) 0 twig.start =
          (.ok segments, 1) := by
  intro twig
  have measured : twig.Measured 0.5 45.0 15.0 0.7 1.3 := ⟨rfl, rfl, rfl, rfl, rfl⟩
  have hprepare : prepare (plant twig 0 : Tree ℝ ExactTwister).options =
      .ok (twig.start, ⟨.scalar 0.7, .scalar 1.3⟩) := by
    show prepare twig = _
    rw [prepare_measured measured, if_neg (by norm_num), if_neg (by norm_num),
      if_neg (by norm_num)]
    rfl
  obtain ⟨segments, grown, hgrown⟩ := grown_of_closable hprepare (by decide)
  obtain ⟨hangle, samples, hlength, hmem, hlisted, -⟩ :=
    generate_in_range ExactTwister.unit_mem hgrown
  have hword : grown.word = twig.start := by
    have hexpand := (inOrder_of_growth hgrown).word
    exact (Except.ok.inj hexpand).symm
  rw [hword] at hlength hlisted
  obtain ⟨m, rfl⟩ := List.length_eq_one_iff.1 hlength
  refine ⟨segments, grown, hgrown, ?_, m, hmem m List.mem_cons_self, hlisted⟩
  have hlow : (45.0 : ℝ) - 15.0 = 30 := by norm_num
  have hhigh : (45.0 : ℝ) + 15.0 = 60 := by norm_num
  rw [← hlow, ← hhigh]
  exact hangle

end Tree
end Arbor
