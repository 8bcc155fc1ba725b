/-
# Grammars with one key

In a grammar whose only key has a text for its replacement no word is stuck, so
that every number of generations of every word comes to its end, and it is the
number of generations of a single rule (`expand_of_sole`).

Generations can be put together from the outside as well as from the inside. The
next generation of the key is its replacement in which every key has become this
generation (`descend_only_succ`), and what is known of one replacement gives a
recurrence over the generations.

Key theorems: `Grammar.expand_of_sole`, `Grammar.descend_only_succ`.
-/
import Arbor.Proofs.Grammar.Incidence
import Arbor.Proofs.Grammar.Powers
import Arbor.Proofs.Grammar.Sequence

namespace Arbor
namespace Grammar

section Sole

variable {rules : Rules} {key : Char} {value : Word}
  (sole : ∀ rule ∈ rules, rule.1 = .text [key])
  (hvalue : replacement key rules = some (.text value))

include sole hvalue

/-- With one key and a text for its replacement no word is stuck. -/
theorem not_stuck_of_sole (w : Word) : ¬Stuck rules w := by
  rintro ⟨c, -, other, hother, noText⟩
  have hkey := sole _ (mem_of_replacement hother)
  obtain rfl : c = key := by simpa using hkey
  rw [hvalue] at hother
  exact noText value (Option.some.inj hother).symm

theorem rounds_of_sole (n : Nat) (w : Word) :
    rounds rules n w = .ok (descend (only key value) n w) := by
  induction n generalizing w with
  | zero => rfl
  | succ n ih =>
    rw [rounds_succ, derive_of_not_stuck (not_stuck_of_sole sole hvalue w), descend_succ,
      image_eq_only sole hvalue]
    exact ih _

theorem expand_of_sole (start : Word) (n : Nat) :
    expand start rules (.whole n) = .ok (descend (only key value) n start) := by
  have hfind : (rules.find? fun rule => !isSymbol rule.1) = none := by
    rw [List.find?_eq_none]
    intro rule hrule
    rw [sole rule hrule]
    exact Bool.false_ne_true
  rw [expand, check_whole, hfind]
  exact rounds_of_sole sole hvalue n start

end Sole

/-- The next generation of the key is its replacement with this generation of
it for every key. -/
theorem descend_only_succ (key : Char) (w : Word) (n : Nat) :
    descend (only key w) (n + 1) [key] =
      w.flatMap (image (only key (descend (only key w) n [key]))) := by
  rw [descend_succ, List.flatMap_singleton, image_only, if_pos rfl, descend_eq_flatMap]
  refine List.flatMap_congr fun c _ => ?_
  rw [image_only]
  by_cases hc : c = key
  · rw [if_pos hc, hc]
  · have hstays : image (only key w) c = [c] := by rw [image_only, if_neg hc]
    rw [if_neg hc, descend_of_image hstays]

end Grammar
end Arbor
