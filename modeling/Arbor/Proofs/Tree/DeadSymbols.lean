/-
# Dead symbols change nothing

The turtle passes over a dead symbol. So the walk over a word and the walk
over the word without its dead symbols take the same steps on the same
turtles, and only count their positions differently: position `i` of the word
is the place that the symbols alive in front of it leave it (`Turtle.placeOf`).
What a step does depends on its position only if it finds an unmatched
bracket, and that is reported at its new place (`walk_erase`).

Generations keep dead symbols dead, so a tree grows to the same segments,
leaves and flowers from the grammar without them, and leaves the same
generator (`generate_erased`).

Key definitions: `Turtle.placeOf`, `Tree.Fault.placed`, `Options.erased`.
Key theorems: `Turtle.walk_erase`, `Turtle.interpret_erase`,
`Tree.prepare_erased`, `Tree.generate_erased`.
-/
import Arbor.Proofs.Grammar.DeadSymbols
import Arbor.Proofs.Tree.Growth
import Arbor.Proofs.Turtle.Parts

namespace Arbor

open Grammar (erase isLive)

/-! ### Walks -/

namespace Turtle

/-- Where position `i` of a word is when the dead symbols are deleted: the
number of symbols alive in front of it. -/
def placeOf (rules : Rules) (w : Word) (i : Nat) : Nat := (erase rules (w.take i)).length

theorem placeOf_length (rules : Rules) (u v : Word) :
    placeOf rules (u ++ v) u.length = (erase rules u).length := by
  unfold placeOf
  rw [List.take_left' rfl]

variable {α σ : Type} [Scalar α] {length angle : Option α} {draw : σ → Option α × σ}

/-- The walk over a word without its dead symbols. The prefix `u` has been
read before. -/
theorem walk_erase (rules : Rules) : ∀ (v u : Word) (t : Turtle α σ),
    walk length angle draw (erase rules u).length t (erase rules v) =
      (walk length angle draw u.length t v).mapError fun e =>
        (e.1.placed (placeOf rules (u ++ v)), e.2)
  | [], _, _ => rfl
  | c :: v, u, t => by
    have ih := walk_erase rules v (u ++ [c])
    have hlen : (u ++ [c]).length = u.length + 1 := List.length_append
    have herase : erase rules (u ++ [c]) = erase rules u ++ erase rules [c] :=
      Grammar.erase_append u [c]
    rw [List.append_assoc, List.singleton_append, hlen, herase, List.length_append] at ih
    rw [walk_cons]
    by_cases live : isLive rules c = true
    · rw [Grammar.erase_cons_live live] at ih ⊢
      rw [walk_cons, ← placeOf_length rules u (c :: v), step_mapError]
      rw [← placeOf_length rules u (c :: v)] at ih
      cases step length angle draw u.length t (Command.ofSymbol c) with
      | error fault => rfl
      | ok next => exact ih next
    · have dead : isLive rules c = false := by simpa using live
      rw [Grammar.erase_cons_dead dead] at ih ⊢
      rw [Grammar.idle_of_dead dead]
      exact ih t

theorem interpret_erase (rules : Rules) (length angle : Quantity α) (source : σ) (w : Word) :
    interpret length angle draw source (erase rules w) =
      ((interpret length angle draw source w).1.mapError (Fault.placed (placeOf rules w)),
        (interpret length angle draw source w).2) := by
  have hwalk : walk length.value? angle.value? draw 0 (atRoot source) (erase rules w) =
      (walk length.value? angle.value? draw 0 (atRoot source) w).mapError fun e =>
        (e.1.placed (placeOf rules w), e.2) := walk_erase rules w [] (atRoot source)
  unfold interpret
  by_cases positive : length.positive = true
  · rw [if_pos positive, if_pos positive, hwalk]
    rcases walk length.value? angle.value? draw 0 (atRoot source) w with ⟨fault, left⟩ | t <;> rfl
  · rw [if_neg positive, if_neg positive]
    rfl

end Turtle

/-! ### Growths -/

variable {α γ : Type}

/-- The same options with the grammar without its dead symbols. -/
def Options.erased (o : Options α) : Options α :=
  { o with start := erase o.rules o.start, rules := Grammar.erased o.rules }

namespace Tree

/-- The same fault, with every position where it has been placed. -/
def Fault.placed (place : Nat → Nat) : Fault α → Fault α
  | turtle fault => turtle (fault.placed place)
  | fault => fault

variable [Scalar α]

/-- The options of the erased grammar are good or bad as those of the whole
one, and the word is that of the whole one without its dead symbols. -/
theorem prepare_erased (o : Options α) :
    prepare o.erased = (prepare o).map fun prepared => (erase o.rules prepared.1, prepared.2) := by
  have hexpand : Grammar.expand (erase o.rules o.start) (Grammar.erased o.rules) o.generations =
      (Grammar.expand o.start o.rules o.generations).map (erase o.rules) :=
    Grammar.expand_erased o.start o.generations
  unfold prepare Options.erased
  simp only [hexpand]
  split
  · rfl
  split
  · rfl
  cases Jitter.ofRange o.jitterLow o.jitterHigh with
  | error fault => rfl
  | ok jitter =>
    cases Grammar.expand o.start o.rules o.generations <;> rfl

/-- The same tree without the dead symbols of its grammar. -/
def erased (tree : Tree α γ) : Tree α γ :=
  { tree with options := tree.options.erased, word := erase tree.options.rules tree.word }

variable [Generator γ α]

/-- A growth commutes with the deletion of dead symbols. -/
theorem generate_of_erased {tree next : Tree α γ} {outcome : Except (Fault α) (List (Segment α))}
    (h : generate tree = (outcome, next)) :
    generate tree.erased =
      (outcome.mapError (Fault.placed (Turtle.placeOf tree.options.rules next.word)),
        next.erased) := by
  have hprepare := prepare_erased tree.options
  have hwalk := fun (jitter : Jitter α) angle (g : γ) =>
    @Turtle.interpret_erase _ _ _ jitter.draw tree.options.rules tree.options.stepLength
      (.scalar angle) g
  cases growth_of_generate h with
  | @refused fault prepared =>
    have hplaced : fault.placed (Turtle.placeOf tree.options.rules tree.word) = fault := by
      cases fault with
      | turtle inner => exact absurd rfl ((prepare_ne_inner prepared).1 inner)
      | _ => rfl
    rw [prepared] at hprepare
    show generate tree.erased =
      (.error (fault.placed (Turtle.placeOf tree.options.rules tree.word)), tree.erased)
    rw [hplaced]
    exact generate_of_refused hprepare
  | angleless prepared angled =>
    rw [prepared] at hprepare
    exact generate_of_no_angle hprepare angled
  | @stopped word jitter angle g left fault prepared angled walked =>
    have hbare := hwalk jitter angle g word
    rw [walked] at hbare
    rw [prepared] at hprepare
    exact generate_of_interpret_error hprepare angled hbare
  | @grown word jitter angle g left last segments picked prepared angled walked decorated =>
    have hbare := hwalk jitter angle g word
    rw [walked] at hbare
    rw [prepared] at hprepare
    exact generate_of_flowers hprepare angled hbare decorated

/-- A growth does not change the options of the tree. -/
theorem options_generate (tree : Tree α γ) : (generate tree).2.options = tree.options := by
  rcases h : generate tree with ⟨outcome, next⟩
  cases growth_of_generate h <;> rfl

/-- **Dead symbols change nothing.** To delete all dead symbols from the start
word and the replacements deletes them from the word of every generation. A
new tree that grows from the erased grammar with the same generator comes to
the same outcome, where an unmatched bracket is reported at the place that the
symbols alive in front of it leave it, and to the same base angle, segments,
leaves, flowers and generator. -/
theorem generate_erased (o : Options α) (g : γ) :
    Grammar.expand (erase o.rules o.start) (Grammar.erased o.rules) o.generations =
      (Grammar.expand o.start o.rules o.generations).map (erase o.rules) ∧
    let grown := (generate (sapling o g)).2
    let bare := (generate (sapling o.erased g)).2
    (generate (sapling o.erased g)).1 =
      (generate (sapling o g)).1.mapError (Fault.placed (Turtle.placeOf o.rules grown.word)) ∧
    bare.word = erase o.rules grown.word ∧ bare.baseAngle = grown.baseAngle ∧
    bare.segments = grown.segments ∧ bare.leaves = grown.leaves ∧ bare.flowers = grown.flowers ∧
    bare.generator = grown.generator := by
  refine ⟨Grammar.expand_erased o.start o.generations, ?_⟩
  intro grown bare
  have hoptions : grown.options = o := options_generate (sapling o g)
  have hbare : generate (sapling o g).erased = _ := generate_of_erased rfl
  have hword : bare.word = erase grown.options.rules grown.word :=
    congrArg (fun r => r.2.word) hbare
  rw [hoptions] at hword
  refine ⟨congrArg Prod.fst hbare, hword, ?_, ?_, ?_, ?_, ?_⟩
  · exact congrArg (fun r => r.2.baseAngle) hbare
  · exact congrArg (fun r => r.2.segments) hbare
  · exact congrArg (fun r => r.2.leaves) hbare
  · exact congrArg (fun r => r.2.flowers) hbare
  · exact congrArg (fun r => r.2.generator) hbare

end Tree
end Arbor
