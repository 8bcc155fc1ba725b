/-
# How the symbols of a word multiply

How often a symbol comes up in the next generation of a word is linear in how
often each symbol comes up in the word itself. `Grammar.incidence` is the
matrix of one generation: its entry at `d` and `c` is how often `c` comes up in
what `d` becomes. The matrix of a number of generations is its power
(`count_descend`), so the order of the symbols of a word makes no difference
for how often each of them comes up later.

There are finitely many symbols, so the sums over all of them are finite. In a
grammar with a single rule the sums are those of `count_descend_only` and
`count_descend_only_of_ne`.

Key definitions: `Grammar.incidence`.
Key theorems: `Grammar.count_flatMap_image`, `Grammar.count_descend`,
`Grammar.image_eq_only`, `Grammar.expand_counts`.
-/
import Mathlib
import Arbor.Proofs.Grammar.Counts

namespace Arbor
namespace Grammar

/-- There are finitely many symbols. -/
noncomputable instance fintypeSymbol : Fintype Char :=
  Fintype.ofInjective (fun c : Char => c.val) fun _ _ => Char.ext

variable {rules : Rules}

/-- How often each symbol comes up in what each symbol becomes. -/
def incidence (rules : Rules) : Matrix Char Char ℕ := fun d c => (image rules d).count c

/-- A sum over the symbols of a word, by how often each of them comes up. -/
theorem sum_map_symbols (w : Word) (f : Char → ℕ) :
    (w.map f).sum = ∑ d, w.count d * f d := by
  induction w with
  | nil => simp
  | cons c w ih =>
    rw [List.map_cons, List.sum_cons, ih]
    simp [List.count_cons, add_mul, Finset.sum_add_distrib, add_comm]

theorem count_flatMap_image (w : Word) (c : Char) :
    (w.flatMap (image rules)).count c = ∑ d, w.count d * incidence rules d c := by
  rw [List.count_flatMap, sum_map_symbols]
  rfl

open Matrix in
/-- A number of generations is the power of the matrix of one. -/
theorem count_descend (n : Nat) (w : Word) (c : Char) :
    (descend rules n w).count c = ∑ d, w.count d * (incidence rules ^ n) d c := by
  induction n generalizing w with
  | zero => simp [Matrix.one_apply]
  | succ n ih =>
    have hstep : (fun d => (w.flatMap (image rules)).count d) =
        (fun d => w.count d) ᵥ* incidence rules := funext fun d => count_flatMap_image w d
    calc (descend rules (n + 1) w).count c
        = ((fun d => (w.flatMap (image rules)).count d) ᵥ* incidence rules ^ n) c := ih _
      _ = ((fun d => w.count d) ᵥ* (incidence rules * incidence rules ^ n)) c := by
        rw [hstep, vecMul_vecMul]
      _ = ∑ d, w.count d * (incidence rules ^ (n + 1)) d c := by rw [← pow_succ']; rfl

/-! ### A single rule -/

/-- Rules with one key only are those of its last replacement. -/
theorem image_eq_only {key : Char} {value : Word} (sole : ∀ rule ∈ rules, rule.1 = .text [key])
    (hvalue : replacement key rules = some (.text value)) :
    image rules = image (only key value) := by
  funext d
  rw [image_only]
  by_cases hd : d = key
  · rw [if_pos hd, hd, image, image?, hvalue, Option.getD_some]
  · have hnone : replacement d rules = none := by
      cases hd' : replacement d rules with
      | none => rfl
      | some other =>
        have hkey := sole _ (mem_of_replacement hd')
        simp only [Setting.text.injEq, List.cons.injEq, and_true] at hkey
        exact absurd hkey hd
    rw [if_neg hd, image, image?, hnone, Option.getD_some]

theorem descend_congr {others : Rules} (h : image rules = image others) (n : Nat) (w : Word) :
    descend rules n w = descend others n w := by
  induction n generalizing w with
  | zero => rfl
  | succ n ih => rw [descend_succ, descend_succ, h, ih]

/-- **Symbols multiply linearly.** Fit rules expand every word, and how often a
symbol comes up then is the sum, over all symbols, of how often they come up in
the word times their entry in the power of the incidence matrix. So two words
with the same symbols in another order have expansions with the same symbols.
If there is only one key, and its replacement has it `r` times and another
symbol `t` times, then `n` generations of it have it `r ^ n` times and the other
one `t * (1 + r + ... + r ^ (n - 1))` times. -/
theorem expand_counts (fit : Fit rules) (start : Word) (n : Nat) :
    (∃ w, expand start rules (.whole n) = .ok w ∧
      (∀ c, w.count c = ∑ d, start.count d * (incidence rules ^ n) d c) ∧
      ∀ other : Word, (∀ d, other.count d = start.count d) →
        ∃ v, expand other rules (.whole n) = .ok v ∧ ∀ c, v.count c = w.count c) ∧
    ∀ (key : Char) (value : Word), (∀ rule ∈ rules, rule.1 = .text [key]) →
      replacement key rules = some (.text value) →
      ∃ w, expand [key] rules (.whole n) = .ok w ∧ w.count key = value.count key ^ n ∧
        ∀ c ≠ key, w.count c = value.count c * ∑ i ∈ Finset.range n, value.count key ^ i := by
  refine ⟨⟨descend rules n start, fit.expand start n, count_descend n start, ?_⟩, ?_⟩
  · intro other hsame
    refine ⟨descend rules n other, fit.expand other n, fun c => ?_⟩
    simp only [count_descend, hsame]
  · intro key value sole hvalue
    have honly := descend_congr (image_eq_only sole hvalue) n [key]
    refine ⟨descend rules n [key], fit.expand [key] n, ?_, fun c hc => ?_⟩
    · rw [honly, count_descend_only, List.count_singleton_self, Nat.mul_one]
    · have hnone : [key].count c = 0 := List.count_eq_zero.2 (by simpa using hc)
      rw [honly, count_descend_only_of_ne key value hc, hnone, List.count_singleton_self,
        Nat.zero_add, Nat.mul_one]

/-- A mimosa: eight branches for one and four turns of one kind with them. It
makes no difference for that whether a turn stands in front of its first branch
or behind it. -/
theorem expand_counts_mimosa :
    Fit mimosaRules ∧ (∀ rule ∈ mimosaRules, rule.1 = .text ['F']) ∧
      (∃ w v, expand ['F', '+'] mimosaRules (.whole 3) = .ok w ∧
        expand ['+', 'F'] mimosaRules (.whole 3) = .ok v ∧ ∀ c, v.count c = w.count c) ∧
      ∃ w, expand ['F'] mimosaRules (.whole 3) = .ok w ∧ w.count 'F' = 8 ^ 3 ∧
        w.count '-' = 4 * (1 + 8 + 8 ^ 2) := by
  have sole : ∀ rule ∈ mimosaRules, rule.1 = .text ['F'] := by
    intro rule hrule
    rw [List.mem_singleton.1 hrule]
    rfl
  obtain ⟨⟨w, hw, -, horder⟩, honly⟩ := expand_counts fit_mimosaRules ['F', '+'] 3
  obtain ⟨v, hv, hsame⟩ := horder ['+', 'F'] (List.Perm.swap 'F' '+' []).count_eq
  obtain ⟨u, hu, hkey, hother⟩ := honly 'F' "FF+[+F-F-^F]-[-F+F&F]".toList sole rfl
  refine ⟨fit_mimosaRules, sole, ⟨w, v, hw, hv, hsame⟩, u, hu, hkey, ?_⟩
  rw [hother '-' (by decide), Finset.sum_range_succ, Finset.sum_range_succ,
    Finset.sum_range_succ, Finset.sum_range_zero]
  rfl

end Grammar
end Arbor
