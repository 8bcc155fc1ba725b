/-
# The group around a position

From an opening bracket to the one that matches it a word is nowhere lower than
right behind the first one, so of two groups that are closed within a word
either one lies in the other or they are apart (`Matched.nested`). So there is
an innermost one among the groups around a position, if there is any
(`existsUnique_groupEnd`).

Key definitions: `Bracket.GroupEnd`.
Key theorems: `Bracket.Matched.le_heightAt`, `Bracket.Matched.nested`,
`Bracket.existsUnique_groupEnd`, `Bracket.Matched.exists_group`.
-/
import Arbor.Proofs.Bracket.Forest
import Arbor.Proofs.Bracket.Matched
import Arbor.Proofs.Bracket.Opened

namespace Arbor
namespace Bracket

/-! ### Nesting -/

theorem heightAt_eq_add {w : Word} {m k : Nat} (hmk : m ≤ k) :
    heightAt w k = heightAt w m + height ((w.take k).drop m) := by
  have hsplit := List.take_append_drop m (w.take k)
  rw [List.take_take, Nat.min_eq_left hmk] at hsplit
  rw [heightAt, heightAt, ← height_append, hsplit]

section Nesting

variable {w : Word} {a b : Nat} (h : Matched w a b)

include h

theorem Matched.le_heightAt {k : Nat} (hak : a < k) (hkb : k ≤ b) :
    heightAt w (a + 1) ≤ heightAt w k := by
  have hpre : (w.take k).drop (a + 1) <+: (w.take b).drop (a + 1) :=
    (List.take_prefix_take_left hkb).drop (a + 1)
  have hinside := closable_iff.1 h.2.2.2.1 _ hpre
  have hsum := heightAt_eq_add (w := w) (show a + 1 ≤ k from hak)
  omega

theorem Matched.heightAt_eq : heightAt w b = heightAt w (a + 1) := by
  rw [heightAt_eq_add (Nat.succ_le_of_lt h.1), h.2.2.2.2, Int.add_zero]

/-- A group that is opened within another one is closed within it. -/
theorem Matched.nested {a' b' : Nat} (h' : Matched w a' b') (haa' : a < a') (ha'b : a' < b) :
    b' < b := by
  by_contra hbb'
  have houter := h.le_heightAt haa' ha'b.le
  have hinner := h'.le_heightAt ha'b (Nat.le_of_not_lt hbb')
  have hclosed := h.heightAt_eq
  have hopen := heightAt_succ h'.2.1
  rw [height_open] at hopen
  omega

end Nesting

/-! ### The innermost group -/

/-- The innermost group around position `p` that is closed within the word ends
at `q`. If there is none, `q` is the end of the word. -/
def GroupEnd (w : Word) (p q : Nat) : Prop :=
  (∃ a, a < p ∧ p < q ∧ Matched w a q ∧
    ∀ a' b', a' < p → p < b' → Matched w a' b' → a' ≤ a ∧ q ≤ b') ∨
  (¬ Covered w p ∧ q = w.length)

/-- The group around a position that ends first is within all others. -/
theorem exists_innermost {w : Word} {p : Nat} (h : Covered w p) :
    ∃ a q, a < p ∧ p < q ∧ Matched w a q ∧
      ∀ a' b', a' < p → p < b' → Matched w a' b' → a' ≤ a ∧ q ≤ b' := by
  classical
  have hends : ∃ q a, a < p ∧ p < q ∧ Matched w a q := by
    obtain ⟨a, q, hm⟩ := h
    exact ⟨q, a, hm⟩
  obtain ⟨a, hap, hpq, hm⟩ := Nat.find_spec hends
  refine ⟨a, Nat.find hends, hap, hpq, hm, fun a' b' ha'p hpb' hm' => ?_⟩
  have hfirst : Nat.find hends ≤ b' := Nat.find_min' hends ⟨a', ha'p, hpb', hm'⟩
  refine ⟨?_, hfirst⟩
  by_contra hlt
  have hwithin := hm.nested hm' (Nat.lt_of_not_le hlt) (ha'p.trans hpq)
  omega

theorem existsUnique_groupEnd (w : Word) (p : Nat) : ∃! q, GroupEnd w p q := by
  by_cases h : Covered w p
  · obtain ⟨a, q, hap, hpq, hm, hleast⟩ := exists_innermost h
    refine ⟨q, Or.inl ⟨a, hap, hpq, hm, hleast⟩, fun q' hq' => ?_⟩
    rcases hq' with ⟨a', ha'p, hpq', hm', hleast'⟩ | ⟨hnot, -⟩
    · exact Nat.le_antisymm (hleast' a q hap hpq hm).2 (hleast a' q' ha'p hpq' hm').2
    · exact absurd h hnot
  · refine ⟨w.length, Or.inr ⟨h, rfl⟩, fun q' hq' => ?_⟩
    rcases hq' with ⟨a', ha'p, hpq', hm', -⟩ | ⟨-, hq'⟩
    · exact absurd ⟨a', q', ha'p, hpq', hm'⟩ h
    · exact hq'

/-! ### The word of a group -/

/-- A word with an unclosed group in it ends higher than it starts. -/
theorem Forest.height_pos : ∀ f : Forest false, 0 < height f.word
  | .symbol c left right rest => by
    have hrest := rest.height_pos
    rw [word_symbol, height_cons, height_other left right]
    omega
  | .group inner rest => by
    have hrest := rest.height_pos
    have hinner := inner.balanced.2
    rw [word_group, height_append, height_cons, height_cons ']', hinner, height_open, height_close]
    omega
  | .unclosed inner => by
    have hinner := inner.closable.height_nonneg
    rw [word_unclosed, height_cons, height_open]
    omega

theorem Balanced.exists_forest {w : Word} (h : Balanced w) : ∃ f : Forest true, f.word = w := by
  obtain ⟨⟨closed, f⟩, hf⟩ := h.1.exists_forest
  cases closed with
  | true => exact ⟨f, hf⟩
  | false =>
    have hpos := f.height_pos
    rw [show f.word = w from hf, h.2] at hpos
    omega

/-- What stands between two matched brackets is a closed forest. -/
theorem Matched.exists_group {w : Word} {a b : Nat} (h : Matched w a b) :
    ∃ f : Forest true, w.take (b + 1) = w.take a ++ ('[' :: f.word ++ [']']) := by
  obtain ⟨hab, hopen, hclose, hbalanced⟩ := h
  obtain ⟨f, hf⟩ := hbalanced.exists_forest
  have hstart : w.take (a + 1) = w.take a ++ ['['] := by
    rw [List.take_add_one, hopen, Option.toList_some]
  have hinside : w.take b = w.take (a + 1) ++ f.word := by
    have hsplit := List.take_append_drop (a + 1) (w.take b)
    rw [List.take_take, Nat.min_eq_left hab] at hsplit
    rw [hf, hsplit]
  refine ⟨f, ?_⟩
  rw [List.take_add_one, hclose, Option.toList_some, hinside, hstart]
  simp

end Bracket
end Arbor
