/-
# Nesting grows evenly

A word that can be measured takes part in a longer one with all its heights
moved up by the height in front of it (`heights_append`). So where one symbol is
replaced by such a word, the heights are the old ones and, for every place of
the symbol, those of the word put in from the height of that place on
(`heights_flatMap_only`). The depth is the greatest of them (`depth_flatMap_only`).

With one rule the word of the next generation is the replacement with the word
of this one in it (`Grammar.descend_only_succ`). The brackets that enclose the
key are nested once more in every generation, and those of the replacement that
do not enclose it count once (`depth_descend_only`).

Key definitions: `Bracket.levels`.
Key theorems: `Bracket.depth_eq_ok_iff`, `Bracket.heights_append`,
`Bracket.heights_flatMap_only`, `Bracket.depth_flatMap_only`,
`Bracket.depth_descend_only`, `Bracket.depth_grows_evenly`.
-/
import Mathlib.Data.Int.LeastGreatest
import Mathlib.Order.Bounds.Image
import Arbor.Proofs.Bracket.Opened
import Arbor.Proofs.Bracket.Substitution
import Arbor.Proofs.Grammar.OneKey

namespace Arbor
namespace Bracket

/-! ### The depth is the greatest height -/

/-- The words that can be measured are those that close what they open, and
their depth is the greatest of their heights. -/
theorem depth_eq_ok_iff {w : Word} {d : Nat} :
    depth w = .ok d ↔ Balanced w ∧ IsGreatest (heights w) d := by
  constructor
  · intro h
    have closable : Closable w := closable_iff_depth.2 (Or.inl ⟨d, h⟩)
    obtain ⟨opened, deepest, hopened, hdeepest, hdepth⟩ := depth_closable closable
    rw [hdepth] at h
    cases opened with
    | nil =>
      obtain rfl : deepest = d := by simpa [scan] using h
      exact ⟨⟨closable, hopened.length.symm⟩, hdeepest⟩
    | cons last outer => cases h
  · rintro ⟨⟨closable, hzero⟩, hd⟩
    obtain ⟨opened, deepest, hopened, hdeepest, hdepth⟩ := depth_closable closable
    have hnone : opened = [] := by
      have hlength := hopened.length
      rw [hzero] at hlength
      exact List.length_eq_zero_iff.1 (by omega)
    have hsame : (deepest : Int) = d := hdeepest.unique hd
    obtain rfl : deepest = d := by omega
    rw [hdepth, hnone]
    rfl

/-! ### Heights of words put together -/

theorem heights_append (u v : Word) :
    heights (u ++ v) = heights u ∪ (height u + ·) '' heights v := by
  induction v using List.reverseRecOn with
  | nil =>
    have hmem : height u + 0 ∈ heights u := by
      rw [Int.add_zero]
      exact height_mem_heights u
    rw [List.append_nil, heights_nil, Set.image_singleton, Set.union_singleton,
      Set.insert_eq_of_mem hmem]
  | append_singleton v c ih =>
    rw [← List.append_assoc, heights_concat, ih, heights_concat, Set.image_insert_eq,
      Set.union_insert, List.append_assoc, height_append]

theorem height_flatMap_only {key : Char} {v : Word} (left : key ≠ '[') (right : key ≠ ']')
    (hv : height v = 0) (w : Word) :
    height (w.flatMap (Grammar.image (Grammar.only key v))) = height w := by
  induction w with
  | nil => rfl
  | cons c w ih =>
    rw [List.flatMap_cons, height_append, ih, height_cons, Grammar.image_only]
    by_cases hc : c = key
    · rw [if_pos hc, hv, hc, height_other left right]
    · rw [if_neg hc]

/-! ### Levels -/

/-- The heights at which a symbol comes up in a word. -/
def levels (c : Char) (w : Word) : Set Int := {h | ∃ i, w[i]? = some c ∧ heightAt w i = h}

theorem levels_nil (c : Char) : levels c [] = ∅ := by
  ext h
  simp [levels]

theorem mem_levels_concat {u : Word} {c d : Char} {h : Int} :
    h ∈ levels c (u ++ [d]) ↔ h ∈ levels c u ∨ d = c ∧ h = height u := by
  constructor
  · rintro ⟨i, hi, rfl⟩
    rcases Nat.lt_trichotomy i u.length with hlt | rfl | hgt
    · refine Or.inl ⟨i, ?_, (heightAt_concat hlt.le d).symm⟩
      rwa [List.getElem?_append_left hlt] at hi
    · rw [List.getElem?_concat_length] at hi
      refine Or.inr ⟨Option.some.inj hi, ?_⟩
      rw [heightAt_concat le_rfl, heightAt_length]
    · rw [List.getElem?_eq_none (by simpa using hgt)] at hi
      cases hi
  · rintro (⟨i, hi, rfl⟩ | ⟨rfl, rfl⟩)
    · have hlt := (List.getElem?_eq_some_iff.1 hi).1
      exact ⟨i, by rwa [List.getElem?_append_left hlt], heightAt_concat hlt.le d⟩
    · refine ⟨u.length, List.getElem?_concat_length, ?_⟩
      rw [heightAt_concat le_rfl, heightAt_length]

theorem levels_concat_self (u : Word) (c : Char) :
    levels c (u ++ [c]) = insert (height u) (levels c u) := by
  ext h
  rw [mem_levels_concat, Set.mem_insert_iff, or_comm]
  simp

theorem levels_concat_of_ne {c d : Char} (hd : d ≠ c) (u : Word) :
    levels c (u ++ [d]) = levels c u := by
  ext h
  rw [mem_levels_concat, or_iff_left fun hboth => hd hboth.1]

/-- A symbol is nowhere higher than the word. -/
theorem levels_subset_heights (c : Char) (w : Word) : levels c w ⊆ heights w := by
  rintro h ⟨i, hi, rfl⟩
  exact ⟨i, (List.getElem?_eq_some_iff.1 hi).1.le, rfl⟩

/-- A symbol that comes up in a word that can be measured has a highest
place. -/
theorem exists_isGreatest_levels {c : Char} {w : Word} {D : Nat} (hD : depth w = .ok D)
    (hc : c ∈ w) : ∃ f : Nat, IsGreatest (levels c w) f := by
  obtain ⟨⟨closable, -⟩, hgreatest⟩ := depth_eq_ok_iff.1 hD
  obtain ⟨i, hi, hic⟩ := List.getElem_of_mem hc
  have hfirst : heightAt w i ∈ levels c w := ⟨i, by rw [List.getElem?_eq_getElem hi, hic], rfl⟩
  obtain ⟨h, hmem, hle⟩ := Int.exists_greatest_of_bdd (P := (· ∈ levels c w))
    ⟨D, fun z hz => hgreatest.2 (levels_subset_heights c w hz)⟩ ⟨_, hfirst⟩
  have hpos : 0 ≤ h := by
    obtain ⟨k, hk, rfl⟩ := levels_subset_heights c w hmem
    exact closable_iff_heightAt.1 closable k hk
  refine ⟨h.toNat, ?_⟩
  rw [Int.toNat_of_nonneg hpos]
  exact ⟨hmem, hle⟩

/-! ### One symbol replaced -/

section Replaced

variable {key : Char} {v : Word} (left : key ≠ '[') (right : key ≠ ']')

include left right

/-- The heights of a word with a word put in for one of its symbols. -/
theorem heights_flatMap_only (hv : height v = 0) (w : Word) :
    heights (w.flatMap (Grammar.image (Grammar.only key v))) =
      heights w ∪ Set.image2 (· + ·) (levels key w) (heights v) := by
  induction w using List.reverseRecOn with
  | nil => simp [levels_nil]
  | append_singleton u c ih =>
    rw [List.flatMap_append, List.flatMap_singleton, heights_append, ih,
      height_flatMap_only left right hv, Grammar.image_only]
    by_cases hc : c = key
    · -- the word put in starts at a height that is there already
      subst hc
      have hsame : heights (u ++ [c]) = heights u := by
        rw [heights_concat, height_append, height_other left right, Int.add_zero,
          Set.insert_eq_of_mem (height_mem_heights u)]
      rw [if_pos rfl, hsame, levels_concat_self, Set.image2_insert_left, Set.union_assoc,
        Set.union_comm ((height u + ·) '' heights v)]
    · have hone : heights (u ++ [c]) = heights u ∪ (height u + ·) '' heights [c] :=
        heights_append u [c]
      rw [if_neg hc, hone, levels_concat_of_ne hc, Set.union_right_comm]

/-- The depth of a word with another one put in for one of its symbols. -/
theorem depth_flatMap_only {w : Word} {D e f : Nat} (hw : depth w = .ok D) (hv : depth v = .ok e)
    (hf : IsGreatest (levels key w) f) :
    depth (w.flatMap (Grammar.image (Grammar.only key v))) = .ok (max D (f + e)) := by
  have keeps : Keeps (Grammar.image (Grammar.only key v)) e := by
    refine ⟨?_, ?_, fun c hleft hright => ?_⟩
    · rw [Grammar.image_only, if_neg left.symm]
    · rw [Grammar.image_only, if_neg right.symm]
    · rw [Grammar.image_only]
      by_cases hc : c = key
      · rw [if_pos hc]
        exact ⟨e, le_rfl, hv⟩
      · rw [if_neg hc]
        exact ⟨0, Nat.zero_le e, depth_other hleft hright⟩
  -- the word can be measured, so only the greatest height is left to find
  obtain ⟨d, hd, -⟩ : Carried _ e (.ok D) _ := hw ▸ depth_flatMap keeps w
  obtain ⟨balanced, -⟩ := depth_eq_ok_iff.1 hd
  obtain ⟨⟨-, hzero⟩, hinside⟩ := depth_eq_ok_iff.1 hv
  refine depth_eq_ok_iff.2 ⟨balanced, ?_⟩
  rw [heights_flatMap_only left right hzero, Nat.cast_max, Nat.cast_add]
  exact (depth_eq_ok_iff.1 hw).2.union
    (hf.image2 (fun _ _ _ h => Int.add_le_add_right h _) (fun _ _ _ h => Int.add_le_add_left h _)
      hinside)

/-- Every generation but the first one nests the places of the key once
more. -/
theorem depth_descend_only {w : Word} {D f : Nat} (hw : depth w = .ok D)
    (hf : IsGreatest (levels key w) f) (n : Nat) :
    depth (Grammar.descend (Grammar.only key w) (n + 1) [key]) = .ok (n * f + D) := by
  have hle : (f : Int) ≤ D :=
    (depth_eq_ok_iff.1 hw).2.2 (levels_subset_heights key w hf.1)
  induction n with
  | zero =>
    rw [Grammar.descend_only_succ, Grammar.descend_zero,
      depth_flatMap_only left right hw (depth_other left right) hf]
    congr 1
    omega
  | succ n ih =>
    rw [Grammar.descend_only_succ, depth_flatMap_only left right hw ih hf, Nat.succ_mul]
    congr 1
    omega

end Replaced

/-- **Nesting grows evenly.** Let a key that is no bracket have a replacement of
depth `D` in which it comes up, at greatest height `f`, and let no other symbol
have a rule. Then the key itself has no depth, and `n` generations of it, one or
more, have the depth `(n - 1) * f + D`. In the grammar of the mimosa both
numbers are one, so that its depth is the number of its generations. -/
theorem depth_grows_evenly :
    (∀ (rules : Rules) (key : Char) (w : Word) (D : Nat), key ≠ '[' → key ≠ ']' →
      (∀ rule ∈ rules, rule.1 = .text [key]) →
      Grammar.replacement key rules = some (.text w) → depth w = .ok D → key ∈ w →
        (∃ s, Grammar.expand [key] rules (.whole 0) = .ok s ∧ depth s = .ok 0) ∧
        ∃ f : Nat, IsGreatest (levels key w) f ∧ ∀ n : Nat, 1 ≤ n →
          ∃ s, Grammar.expand [key] rules (.whole n) = .ok s ∧
            depth s = .ok ((n - 1) * f + D)) ∧
    ∃ w, (∀ rule ∈ mimosaRules, rule.1 = .text ['F']) ∧
      Grammar.replacement 'F' mimosaRules = some (.text w) ∧
      depth w = .ok 1 ∧ IsGreatest (levels 'F' w) 1 ∧
      ∀ n : Nat, ∃ s, Grammar.expand mimosaStart mimosaRules (.whole n) = .ok s ∧
        depth s = .ok n := by
  constructor
  · intro rules key w D left right sole hvalue hD hmem
    have hexpand := Grammar.expand_of_sole sole hvalue [key]
    obtain ⟨f, hf⟩ := exists_isGreatest_levels hD hmem
    refine ⟨⟨[key], hexpand 0, depth_other left right⟩, f, hf, fun n hn => ?_⟩
    obtain ⟨m, rfl⟩ := Nat.exists_eq_add_of_le' hn
    exact ⟨_, hexpand (m + 1), depth_descend_only left right hD hf m⟩
  · have sole : ∀ rule ∈ mimosaRules, rule.1 = .text ['F'] := by
      intro rule hrule
      rw [List.mem_singleton.1 hrule]
      rfl
    have hdepth : depth "FF+[+F-F-^F]-[-F+F&F]".toList = .ok 1 := by decide
    have hlevels : IsGreatest (levels 'F' "FF+[+F-F-^F]-[-F+F&F]".toList) (1 : Nat) :=
      ⟨⟨5, rfl, rfl⟩, fun h hh => (depth_eq_ok_iff.1 hdepth).2.2 (levels_subset_heights _ _ hh)⟩
    refine ⟨_, sole, rfl, hdepth, hlevels, fun n => ?_⟩
    refine ⟨_, Grammar.expand_of_sole sole rfl mimosaStart n, ?_⟩
    cases n with
    | zero => rfl
    | succ n =>
      have hgrown := depth_descend_only (by decide : 'F' ≠ '[') (by decide) hdepth hlevels n
      rw [Nat.mul_one] at hgrown
      exact hgrown

/-- A key both next to brackets and between them: two of three levels do not
enclose it. -/
theorem depth_grows_evenly_mixed :
    let w : Word := "[A[[]]]A".toList
    let rules : Rules := [(.text ['A'], .text w)]
    depth w = .ok 3 ∧ IsGreatest (levels 'A' w) 1 ∧
      ∃ s, Grammar.expand ['A'] rules (.whole 3) = .ok s ∧ depth s = .ok 5 := by
  intro w rules
  have sole : ∀ rule ∈ rules, rule.1 = .text ['A'] := by
    intro rule hrule
    rw [List.mem_singleton.1 hrule]
  have hdepth : depth w = .ok 3 := by decide
  have hlevels : IsGreatest (levels 'A' w) 1 := by
    refine ⟨⟨1, rfl, rfl⟩, ?_⟩
    rintro h ⟨i, hi, rfl⟩
    have hlow : ∀ i < 8, w[i]? = some 'A' → heightAt w i ≤ 1 := by decide
    exact hlow i (List.getElem?_eq_some_iff.1 hi).1 hi
  obtain ⟨-, f, hf, hgrows⟩ := depth_grows_evenly.1 rules 'A' w 3 (by decide) (by decide) sole rfl
    hdepth (by decide)
  have hone : (f : Int) = 1 := hf.unique hlevels
  obtain rfl : f = 1 := by omega
  exact ⟨hdepth, hlevels, hgrows 3 (by decide)⟩

end Bracket
end Arbor
