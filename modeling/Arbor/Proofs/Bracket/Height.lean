/-
# The height of a word

The height of a word is the number of its opening brackets less that of its
closing ones. A word is closable when no prefix closes more brackets than it
opens, and balanced when it also closes all it opens. A word that is not
closable has a first unmatched bracket, a closing one at height zero
(`closable_or_firstUnmatched`).

Key definitions: `Bracket.height`, `Bracket.Closable`, `Bracket.Balanced`,
`Bracket.Unmatched`, `Bracket.FirstUnmatched`.
Key theorems: `Bracket.closable_concat`, `Bracket.closable_append_iff`,
`Bracket.closable_or_firstUnmatched`, `Bracket.FirstUnmatched.closable_take`.
-/
import Mathlib.Data.List.Induction
import Mathlib.Data.List.Infix
import Mathlib.Data.Nat.Find
import Arbor.Bracket

namespace Arbor
namespace Bracket

/-- How many more brackets a word opens than it closes. -/
def height (w : Word) : Int := (w.count '[' : Int) - w.count ']'

@[simp] theorem height_nil : height [] = 0 := rfl

@[simp] theorem height_open : height ['['] = 1 := rfl

@[simp] theorem height_close : height [']'] = -1 := rfl

theorem height_other {c : Char} (left : c ≠ '[') (right : c ≠ ']') : height [c] = 0 := by
  simp [height, left, right]

theorem height_append (u v : Word) : height (u ++ v) = height u + height v := by
  simp only [height, List.count_append]
  omega

theorem height_cons (c : Char) (w : Word) : height (c :: w) = height [c] + height w :=
  height_append [c] w

/-- A single symbol lowers the height by at most one, and only a closing
bracket lowers it. -/
theorem height_symbol (c : Char) : (c = ']' ∧ height [c] = -1) ∨ (c ≠ ']' ∧ 0 ≤ height [c]) := by
  by_cases hc : c = ']'
  · exact Or.inl ⟨hc, by rw [hc]; rfl⟩
  · refine Or.inr ⟨hc, ?_⟩
    by_cases ho : c = '['
    · rw [ho]; decide
    · exact (height_other ho hc).symm ▸ Int.le_refl 0

/-! ### Closable words -/

/-- No prefix of the word closes more brackets than it opens. -/
def Closable (w : Word) : Prop := ∀ u, u <+: w → u.count ']' ≤ u.count '['

instance : DecidablePred Closable := fun w =>
  decidable_of_iff (∀ u ∈ w.inits, u.count ']' ≤ u.count '[') (by simp [Closable])

/-- A closable word that closes all brackets it opens. -/
def Balanced (w : Word) : Prop := Closable w ∧ height w = 0

theorem closable_iff {w : Word} : Closable w ↔ ∀ u, u <+: w → 0 ≤ height u := by
  refine forall₂_congr fun u _ => ?_
  unfold height
  omega

theorem closable_nil : Closable [] := by decide

theorem Closable.height_nonneg {w : Word} (h : Closable w) : 0 ≤ height w :=
  closable_iff.1 h w List.prefix_rfl

theorem Closable.of_prefix {u w : Word} (h : Closable w) (hu : u <+: w) : Closable u :=
  fun x hx => h x (hx.trans hu)

theorem closable_concat {u : Word} {c : Char} :
    Closable (u ++ [c]) ↔ Closable u ∧ 0 ≤ height (u ++ [c]) := by
  constructor
  · exact fun h => ⟨h.of_prefix (List.prefix_append u [c]), h.height_nonneg⟩
  · rintro ⟨hu, hc⟩
    refine closable_iff.2 fun x hx => ?_
    rcases List.prefix_concat_iff.1 hx with rfl | hx
    · exact hc
    · exact closable_iff.1 hu x hx

theorem closable_append_iff {u v : Word} :
    Closable (u ++ v) ↔ Closable u ∧ ∀ x, x <+: v → 0 ≤ height u + height x := by
  constructor
  · intro h
    refine ⟨h.of_prefix (List.prefix_append u v), fun x hx => ?_⟩
    rw [← height_append]
    exact closable_iff.1 h _ ((List.prefix_append_right_inj u).2 hx)
  · rintro ⟨hu, hv⟩
    refine closable_iff.2 fun x hx => ?_
    rcases List.prefix_or_prefix_of_prefix hx (List.prefix_append u v) with hxu | ⟨y, rfl⟩
    · exact closable_iff.1 hu x hxu
    · rw [height_append]
      exact hv y ((List.prefix_append_right_inj u).1 hx)

theorem Balanced.append {u v : Word} (hu : Balanced u) (hv : Balanced v) : Balanced (u ++ v) := by
  refine ⟨closable_append_iff.2 ⟨hu.1, fun x hx => ?_⟩, ?_⟩
  · rw [hu.2, Int.zero_add]
    exact closable_iff.1 hv.1 x hx
  · rw [height_append, hu.2, hv.2, Int.add_zero]

/-! ### Unmatched brackets -/

/-- A closing bracket at height zero. -/
def Unmatched (w : Word) (i : Nat) : Prop := w[i]? = some ']' ∧ height (w.take i) = 0

/-- The first closing bracket at height zero. -/
def FirstUnmatched (w : Word) (i : Nat) : Prop := Unmatched w i ∧ ∀ j < i, ¬ Unmatched w j

/-- Whether a bracket is unmatched does not depend on what comes after it. -/
theorem unmatched_append {u : Word} {i : Nat} (hi : i < u.length) (v : Word) :
    Unmatched (u ++ v) i ↔ Unmatched u i := by
  unfold Unmatched
  rw [List.getElem?_append_left hi, List.take_append_of_le_length hi.le]

theorem closable_of_matched {w : Word} (h : ∀ i < w.length, ¬ Unmatched w i) : Closable w := by
  induction w using List.reverseRecOn with
  | nil => exact closable_nil
  | append_singleton u c ih =>
    have hlen : (u ++ [c]).length = u.length + 1 := by simp
    have hu : Closable u := ih fun i hi hbad =>
      h i (by omega) ((unmatched_append hi [c]).2 hbad)
    have hpos := hu.height_nonneg
    refine closable_concat.2 ⟨hu, ?_⟩
    rw [height_append]
    rcases height_symbol c with ⟨rfl, hc⟩ | ⟨-, hc⟩
    · have hne : height u ≠ 0 := fun h0 =>
        h u.length (by omega) ⟨List.getElem?_concat_length, by rw [List.take_left']; exact h0; rfl⟩
      omega
    · omega

theorem closable_or_firstUnmatched (w : Word) : Closable w ∨ ∃ i, FirstUnmatched w i := by
  by_cases h : ∃ i, Unmatched w i
  · classical
    exact Or.inr ⟨Nat.find h, Nat.find_spec h, fun j hj => Nat.find_min h hj⟩
  · exact Or.inl (closable_of_matched fun i _ hi => h ⟨i, hi⟩)

/-- Up to its first unmatched bracket a word is closable. -/
theorem FirstUnmatched.closable_take {w : Word} {i : Nat} (h : FirstUnmatched w i) :
    Closable (w.take i) := by
  refine closable_of_matched fun j hj hbad => ?_
  have hji : j < i := lt_of_lt_of_le hj (List.length_take_le i w)
  refine h.2 j hji ?_
  rw [← List.take_append_drop i w]
  exact (unmatched_append hj _).2 hbad

theorem FirstUnmatched.split {w : Word} {i : Nat} (h : FirstUnmatched w i) :
    w = w.take i ++ ']' :: w.drop (i + 1) := by
  obtain ⟨hi, hc⟩ := List.getElem?_eq_some_iff.1 h.1.1
  conv_lhs => rw [← List.take_append_drop i w, List.drop_eq_getElem_cons hi, hc]

end Bracket
end Arbor
