/-
# The depth of a word is read off its heights

`Bracket.depth` keeps a stack of positions; the heights of the prefixes of a
word say what it finds without one. The first prefix below zero ends with the
bracket that is unmatched. If there is none and the word ends above zero, the
last bracket whose height the word never comes back to is unclosed, and if it
ends at zero its depth is the greatest height (`depth_by_heights`).

To drop the symbols that are no brackets is a substitution of the empty word
for them, under which a fault only moves (`depth_filter`).

Key definitions: `Bracket.isBracket`.
Key theorems: `Bracket.firstUnmatched_iff`, `Bracket.depth_filter`,
`Bracket.depth_by_heights`.
-/
import Arbor.Proofs.Bracket.Opened
import Arbor.Proofs.Bracket.Substitution

namespace Arbor
namespace Bracket

/-- The prefix that ends with the first unmatched bracket is the first one below
zero. -/
theorem firstUnmatched_iff {w : Word} {i : Nat} :
    FirstUnmatched w i ↔ IsLeast {k | k ≤ w.length ∧ heightAt w k < 0} (i + 1) := by
  have hbelow : ∀ j, Unmatched w j → j + 1 ≤ w.length ∧ heightAt w (j + 1) < 0 := by
    rintro j ⟨hc, h0⟩
    refine ⟨(List.getElem?_eq_some_iff.1 hc).1, ?_⟩
    rw [heightAt_succ hc, heightAt, h0, height_close]
    decide
  constructor
  · intro h
    refine ⟨hbelow i h.1, ?_⟩
    rintro k ⟨hk, hneg⟩
    by_contra hle
    -- up to the first unmatched bracket the word is closable
    have hpos := closable_iff.1 h.closable_take ((w.take i).take k) (List.take_prefix k _)
    rw [List.take_take, Nat.min_eq_left (by omega)] at hpos
    exact absurd hneg (Int.not_lt.2 hpos)
  · rintro ⟨⟨hi, hneg⟩, hleast⟩
    have hfirst : ∀ j < i, ¬ Unmatched w j := fun j hj hbad => by
      have := hleast (hbelow j hbad)
      omega
    have hpos : 0 ≤ heightAt w i := by
      by_contra hlt
      have := hleast (show i ≤ w.length ∧ heightAt w i < 0 from ⟨by omega, by omega⟩)
      omega
    have hc : w[i]? = some w[i] := List.getElem?_eq_getElem hi
    rw [heightAt_succ hc] at hneg
    rcases height_symbol w[i] with ⟨hclose, hdown⟩ | ⟨-, hup⟩
    · rw [hclose] at hc
      exact ⟨⟨hc, show heightAt w i = 0 by omega⟩, hfirst⟩
    · omega

/-! ### Symbols that are no brackets -/

/-- Whether a symbol is a bracket. -/
def isBracket (c : Char) : Bool := c == '[' || c == ']'

/-- Without its other symbols a word has the same depth, or the same fault at
the place its bracket has among the brackets. -/
theorem depth_filter (w : Word) :
    depth (w.filter isBracket) =
      (depth w).mapError fun fault =>
        fault.moveTo ((w.take fault.index).filter isBracket).length := by
  have hfilter : ∀ v : Word, v.filter isBracket = v.flatMap fun c => [c].filter isBracket := by
    intro v
    rw [← List.filter_flatMap, List.flatMap_singleton']
  have keeps : Keeps (fun c => [c].filter isBracket) 0 := by
    refine ⟨rfl, rfl, fun c left right => ⟨0, Nat.le_refl 0, ?_⟩⟩
    have hdropped : [c].filter isBracket = [] := by simp [isBracket, left, right]
    rw [hdropped]
    rfl
  have hcarried := depth_flatMap keeps w
  unfold moved at hcarried
  simp only [← hfilter] at hcarried
  cases hdepth : depth w with
  | ok d =>
    rw [hdepth] at hcarried
    obtain ⟨e, he, hde, hed⟩ := hcarried
    obtain rfl : e = d := by omega
    exact he
  | error fault =>
    rw [hdepth] at hcarried
    exact hcarried

/-! ### The depth -/

/-- **Depth is read off the heights.** If a prefix of the word is below zero,
the bracket at the end of the first such prefix is unmatched. Otherwise, if the
word ends above zero, the last bracket is unclosed whose height the word never
comes back to; and if it ends at zero, its depth is the greatest height of a
prefix. Symbols that are no brackets only count for the positions. -/
theorem depth_by_heights (w : Word) :
    (∀ k, IsLeast {k | k ≤ w.length ∧ heightAt w k < 0} k →
      depth w = .error (.unmatched (k - 1))) ∧
    ((∀ k ≤ w.length, 0 ≤ heightAt w k) →
      (0 < heightAt w w.length →
        ∃ i, IsGreatest {i | w[i]? = some '[' ∧
            ¬ ∃ k, i + 1 < k ∧ k ≤ w.length ∧ heightAt w k ≤ heightAt w i} i ∧
          depth w = .error (.unclosed i)) ∧
      (heightAt w w.length = 0 →
        ∃ d : Nat, IsGreatest (heightAt w '' {k | k ≤ w.length}) d ∧ depth w = .ok d)) ∧
    depth (w.filter isBracket) =
      (depth w).mapError fun fault =>
        fault.moveTo ((w.take fault.index).filter isBracket).length := by
  refine ⟨fun k hk => ?_, fun hpos => ?_, depth_filter w⟩
  · cases k with
    | zero => exact absurd hk.1.2 (by rw [heightAt_zero]; decide)
    | succ i => exact depth_of_firstUnmatched (firstUnmatched_iff.2 hk)
  · obtain ⟨opened, deepest, hopened, hdeepest, hdepth⟩ :=
      depth_closable (closable_iff_heightAt.2 hpos)
    have hlength := hopened.length
    rw [heightAt_length, ← hlength]
    cases opened with
    | nil => exact ⟨fun h => absurd h (by decide), fun _ => ⟨deepest, hdeepest, hdepth⟩⟩
    | cons last outer =>
      refine ⟨fun _ => ⟨last, ?_, hdepth⟩, fun h => ?_⟩
      · have hsame : {i | w[i]? = some '[' ∧
            ¬ ∃ k, i + 1 < k ∧ k ≤ w.length ∧ heightAt w k ≤ heightAt w i} =
            {i | Unclosed w i} := by
          ext i
          simp only [Unclosed, Set.mem_ofPred_eq, not_exists, not_and, Int.not_le]
        rw [hsame]
        exact hopened.isGreatest
      · rw [List.length_cons] at h
        omega

/-- An unclosed bracket that a later, closed group cannot hide. -/
example : depth "F[+[F]-[".toList = .error (.unclosed 7) := by decide

end Bracket
end Arbor
