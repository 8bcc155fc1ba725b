/-
# A growth remembers nothing

`Tree.generate` overwrites what the growth before it has left, and it looks at
the options and at the generator only. So two trees with equal options and
equal generators grow alike, whatever either has been through
(`Tree.generate_of_same`). Among the options it does not look at the seed: that
one is used where a tree is planted, and later assignments to it change nothing
(`Tree.generate_sown`).

A tree that is given the generator of a seed therefore grows like one that is
planted with this seed (`History.generate_reseed`).

Key definitions: `Options.sown`.
Key theorems: `Tree.generate_sown`, `Tree.generate_of_same`,
`History.generate_reseed`.
-/
import Arbor.Chance.Twister
import Arbor.Proofs.Tree.History

namespace Arbor

variable {α γ : Type}

/-- These options with another seed, or with none. -/
def Options.sown (o : Options α) (seed : Option Int) : Options α := { o with seed := seed }

variable [Scalar α] [Generator γ α]

namespace Tree

/-- The seed of the options plays no part in a growth. -/
theorem generate_sown (tree : Tree α γ) (seed : Option Int) :
    generate { tree with options := tree.options.sown seed } =
      ((generate tree).1, { (generate tree).2 with options := tree.options.sown seed }) := by
  rcases h : generate tree with ⟨outcome, next⟩
  cases growth_of_generate h with
  | refused prepared => exact generate_of_refused prepared
  | angleless prepared angled => exact generate_of_no_angle prepared angled
  | stopped prepared angled walked => exact generate_of_interpret_error prepared angled walked
  | grown prepared angled walked decorated =>
    exact generate_of_flowers prepared angled walked decorated

/-- Neither does what earlier growths have left: the outcome and the generator
after it depend on the options and on the generator before it, and so does the
whole tree if the growth does not fail. -/
theorem generate_of_same {tree other next : Tree α γ}
    {outcome : Except (Fault α) (List (Segment α))} (hoptions : other.options = tree.options)
    (hgenerator : other.generator = tree.generator) (h : generate tree = (outcome, next)) :
    ∃ left, generate other = (outcome, left) ∧ left.generator = next.generator ∧
      (outcome.isOk = true → left = next) := by
  cases growth_of_generate h with
  | refused prepared =>
    rw [← hoptions] at prepared
    exact ⟨_, generate_of_refused prepared, hgenerator, nofun⟩
  | angleless prepared angled =>
    rw [← hoptions] at prepared angled
    rw [← hgenerator] at angled
    exact ⟨_, generate_of_no_angle prepared angled, rfl, nofun⟩
  | stopped prepared angled walked =>
    rw [← hoptions] at prepared angled walked
    rw [← hgenerator] at angled
    exact ⟨_, generate_of_interpret_error prepared angled walked, rfl, nofun⟩
  | grown prepared angled walked decorated =>
    rw [← hoptions] at prepared angled walked
    rw [← hgenerator] at angled
    have hgenerate := generate_of_flowers prepared angled walked decorated
    rw [hoptions] at hgenerate
    exact ⟨_, hgenerate, rfl, fun _ => rfl⟩

end Tree

namespace History

/-- **A growth has no memory.** Whatever has been done to a tree, if it is then
given the generator of a seed and told to grow, it comes to the outcome of a
tree planted with its options and this seed, failure or not, and the generators
are equal afterwards. If the growth does not fail, so is all else that it sets.
A seed that is assigned to the options of the tree before it gets the generator
changes nothing but these options. -/
theorem generate_reseed (options : Options α) (g : γ) (acts : List (Act α)) (seed entropy : Int) :
    let tree := (ofActs options g acts).tree
    let grown := (tree.reseed seed).generate
    let fresh := (Tree.plant (tree.options.sown (some seed)) entropy : Tree α γ).generate
    grown.1 = fresh.1 ∧ grown.2.generator = fresh.2.generator ∧
    (grown.1.isOk = true →
      grown.2.word = fresh.2.word ∧ grown.2.baseAngle = fresh.2.baseAngle ∧
      grown.2.segments = fresh.2.segments ∧ grown.2.leaves = fresh.2.leaves ∧
      grown.2.flowers = fresh.2.flowers) ∧
    ∀ assigned : Option Int,
      let assignment := Act.choose (tree.options.sown assigned)
      ((ofActs options g (acts ++ [assignment])).tree.reseed seed).generate =
        (grown.1, { grown.2 with options := tree.options.sown assigned }) := by
  intro tree grown fresh
  let sown := { tree.reseed seed with options := tree.options.sown (some seed) }
  have hsown : sown.generate =
      (grown.1, { grown.2 with options := tree.options.sown (some seed) }) :=
    Tree.generate_sown (tree.reseed seed) (some seed)
  have hoptions : (Tree.plant (tree.options.sown (some seed)) entropy : Tree α γ).options =
      sown.options := rfl
  obtain ⟨left, hfresh, hgenerator, hleft⟩ := Tree.generate_of_same hoptions rfl hsown
  have hfresh : fresh = (grown.1, left) := hfresh
  rw [hfresh]
  refine ⟨rfl, hgenerator.symm, fun hok => ?_, fun assigned => ?_⟩
  · rw [hleft hok]
    exact ⟨rfl, rfl, rfl, rfl, rfl⟩
  · intro assignment
    have hassigned : (ofActs options g (acts ++ [assignment])).tree =
        { tree with options := tree.options.sown assigned } := by
      unfold ofActs
      rw [List.foldl_concat]
      rfl
    rw [hassigned]
    exact Tree.generate_sown (tree.reseed seed) assigned

end History
end Arbor
