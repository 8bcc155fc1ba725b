/-
# How large a word of one rule grows

In a grammar with a single rule every generation multiplies the number of
symbols to replace by how often the replacement has that symbol itself, and
each of them adds the other symbols of the replacement. Both recurrences are
solved here, and the mimosa, where one `F` becomes eight of them among twenty
more symbols than it was, is the case `8` and `20`.

Key definitions: `Grammar.only`.
Key theorems: `Grammar.count_descend_only`, `Grammar.count_descend_only_of_ne`,
`Grammar.length_descend_only`, `Grammar.count_mimosa`, `Grammar.length_mimosa`,
`Grammar.closable_mimosa`.
-/
import Mathlib.Algebra.Ring.GeomSum
import Mathlib.Tactic.Linarith
import Mathlib.Tactic.Ring
import Arbor.Proofs.Bracket.Opened
import Arbor.Proofs.Bracket.Substitution

namespace Arbor
namespace Grammar

/-- The grammar with this rule only. -/
def only (key : Char) (replacement : Word) : Rules := [(.text [key], .text replacement)]

theorem image_only (key : Char) (r : Word) (d : Char) :
    image (only key r) d = if d = key then r else [d] := by
  by_cases hd : d = key
  · subst hd
    simp [image, image?, only, replacement, isKeyOf]
  · have hne : ¬ key = d := fun h => hd h.symm
    simp [image, image?, only, replacement, isKeyOf, hd, hne]

section One

variable (key : Char) (r : Word)

/-- One generation multiplies the number of symbols to replace. -/
theorem count_flatMap_only (w : Word) :
    (w.flatMap (image (only key r))).count key = r.count key * w.count key := by
  induction w with
  | nil => simp
  | cons d w ih =>
    rw [List.flatMap_cons, List.count_append, ih, image_only]
    by_cases hd : d = key
    · rw [if_pos hd, hd, List.count_cons_self]
      ring
    · have hnone : [d].count key = 0 := List.count_eq_zero.2 (by simpa using Ne.symm hd)
      rw [if_neg hd, hnone, List.count_cons_of_ne hd, Nat.zero_add]

/-- One generation adds the other symbols of a replacement. -/
theorem count_flatMap_only_of_ne {c : Char} (hc : c ≠ key) (w : Word) :
    (w.flatMap (image (only key r))).count c = w.count c + r.count c * w.count key := by
  induction w with
  | nil => simp
  | cons d w ih =>
    rw [List.flatMap_cons, List.count_append, ih, image_only]
    by_cases hd : d = key
    · rw [if_pos hd, hd, List.count_cons_self, List.count_cons_of_ne hc.symm]
      ring
    · rw [if_neg hd, List.count_cons_of_ne hd, ← Nat.add_assoc, ← List.count_append,
        List.singleton_append]

/-- One generation puts the replacement where the key was. -/
theorem length_flatMap_only (w : Word) :
    (w.flatMap (image (only key r))).length + w.count key =
      w.length + r.length * w.count key := by
  induction w with
  | nil => simp
  | cons d w ih =>
    rw [List.flatMap_cons, List.length_append, image_only, List.length_cons]
    by_cases hd : d = key
    · rw [if_pos hd, hd, List.count_cons_self, Nat.mul_succ]
      omega
    · rw [if_neg hd, List.count_cons_of_ne hd, List.length_singleton]
      omega

theorem count_descend_only (n : Nat) (w : Word) :
    (descend (only key r) n w).count key = r.count key ^ n * w.count key := by
  induction n generalizing w with
  | zero => simp
  | succ n ih =>
    rw [descend_succ, ih, count_flatMap_only]
    ring

/-- A symbol that is never replaced adds up to a geometric sum. -/
theorem count_descend_only_of_ne {c : Char} (hc : c ≠ key) (n : Nat) (w : Word) :
    (descend (only key r) n w).count c =
      w.count c + r.count c * w.count key * ∑ i ∈ Finset.range n, r.count key ^ i := by
  induction n generalizing w with
  | zero => simp
  | succ n ih =>
    rw [descend_succ, ih, count_flatMap_only_of_ne key r hc, count_flatMap_only, geom_sum_succ]
    ring

/-- The length of a word; the equation is the geometric sum of the symbols
that are never replaced, with its denominator `m` multiplied out. -/
theorem length_descend_only {m e : Nat} (hcount : r.count key = m + 1) (hlength : r.length = e + 1)
    (n : Nat) (w : Word) :
    m * (descend (only key r) n w).length + e * w.count key =
      m * w.length + e * ((m + 1) ^ n * w.count key) := by
  induction n generalizing w with
  | zero => simp
  | succ n ih =>
    have hnext := ih (w.flatMap (image (only key r)))
    have hlen : (w.flatMap (image (only key r))).length = w.length + e * w.count key := by
      have h := length_flatMap_only key r w
      rw [hlength, Nat.succ_mul] at h
      omega
    rw [count_flatMap_only, hcount, hlen] at hnext
    rw [descend_succ, Nat.pow_succ]
    linarith

end One

/-! ### The mimosa -/

theorem fit_mimosaRules : Fit mimosaRules := fit_nil.cons _ _

/-- A generation of a mimosa is what its start has become. -/
theorem expand_mimosa (n : Nat) :
    expand mimosaStart mimosaRules (.whole n) = .ok (descend mimosaRules n mimosaStart) :=
  fit_mimosaRules.expand mimosaStart n

theorem mimosaRules_eq : mimosaRules = only 'F' "FF+[+F-F-^F]-[-F+F&F]".toList := rfl

/-- One branch becomes eight. -/
theorem count_mimosa (n : Nat) : (descend mimosaRules n mimosaStart).count 'F' = 8 ^ n := by
  have hstart : mimosaStart.count 'F' = 1 := by decide
  have hcount : "FF+[+F-F-^F]-[-F+F&F]".toList.count 'F' = 8 := by decide
  rw [mimosaRules_eq, count_descend_only, hstart, hcount, Nat.mul_one]

/-- Each replacement brings twenty further symbols. -/
theorem length_mimosa (n : Nat) :
    (descend mimosaRules n mimosaStart).length = 1 + 20 * (8 ^ n - 1) / 7 := by
  have h := length_descend_only 'F' "FF+[+F-F-^F]-[-F+F&F]".toList (m := 7) (e := 20)
    (by decide) (by decide) n mimosaStart
  have hstart : mimosaStart.count 'F' = 1 := by decide
  have hlength : mimosaStart.length = 1 := by decide
  have hpos : 0 < 8 ^ n := Nat.pow_pos (by decide)
  rw [← mimosaRules_eq, hstart, hlength, Nat.mul_one (8 ^ n)] at h
  omega

/-- No generation closes a bracket that is not open. -/
theorem closable_mimosa (n : Nat) : Bracket.Closable (descend mimosaRules n mimosaStart) := by
  have hcarried := Bracket.depth_descend Bracket.tidy_mimosaRules n mimosaStart
  have hstart : Bracket.depth mimosaStart = .ok 0 := rfl
  rw [hstart] at hcarried
  obtain ⟨d, hd, -⟩ := hcarried
  exact Bracket.closable_iff_depth.2 (Or.inl ⟨d, hd⟩)

end Grammar
end Arbor
