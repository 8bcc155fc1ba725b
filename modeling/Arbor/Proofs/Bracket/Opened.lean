/-
# The brackets that are open

An opening bracket is unclosed when the word never comes back to the height in
front of it. `Bracket.scan` reads a closable word to its end with the unclosed
brackets on its stack, the innermost first, and with the greatest height of a
prefix as the deepest nesting (`scan_opened`).

A closing bracket takes off the innermost position and no other, because an
unclosed bracket is at least as high as there are others around it
(`Unclosed.level`).

So `Bracket.depth` finds an unmatched bracket exactly when there is one, and it
finds the first (`depth_eq_unmatched_iff`).

Key definitions: `Bracket.heightAt`, `Bracket.heights`, `Bracket.Unclosed`,
`Bracket.Opened`.
Key theorems: `Bracket.unclosed_concat`, `Bracket.Opened.concat_close`,
`Bracket.scan_opened`, `Bracket.depth_closable`,
`Bracket.depth_eq_unmatched_iff`, `Bracket.closable_iff_depth`.
-/
import Mathlib.Order.Bounds.Basic
import Arbor.Proofs.Bracket.Height

namespace Arbor
namespace Bracket

/-- The height of the first `k` symbols of a word. -/
def heightAt (w : Word) (k : Nat) : Int := height (w.take k)

/-- The heights of all prefixes of a word. -/
def heights (w : Word) : Set Int := heightAt w '' {k | k ≤ w.length}

/-- An opening bracket such that the word never comes back to the height in
front of it. -/
def Unclosed (w : Word) (i : Nat) : Prop :=
  w[i]? = some '[' ∧ ∀ k, i + 1 < k → k ≤ w.length → heightAt w i < heightAt w k

/-! ### Heights -/

theorem heightAt_zero (w : Word) : heightAt w 0 = 0 := rfl

theorem heightAt_length (w : Word) : heightAt w w.length = height w := by
  rw [heightAt, List.take_length]

theorem heightAt_succ {w : Word} {k : Nat} {c : Char} (h : w[k]? = some c) :
    heightAt w (k + 1) = heightAt w k + height [c] := by
  rw [heightAt, List.take_add_one, h, Option.toList_some, height_append, heightAt]

theorem heightAt_concat {u : Word} {k : Nat} (hk : k ≤ u.length) (c : Char) :
    heightAt (u ++ [c]) k = heightAt u k := by
  rw [heightAt, List.take_append_of_le_length hk, heightAt]

theorem heightAt_concat_length (u : Word) (c : Char) :
    heightAt (u ++ [c]) (u.length + 1) = height (u ++ [c]) := by
  rw [← heightAt_length, List.length_append, List.length_singleton]

theorem closable_iff_heightAt {w : Word} : Closable w ↔ ∀ k ≤ w.length, 0 ≤ heightAt w k := by
  rw [closable_iff]
  constructor
  · exact fun h k _ => h _ (List.take_prefix k w)
  · intro h u hu
    have hk := h u.length hu.length_le
    rwa [heightAt, ← List.prefix_iff_eq_take.1 hu] at hk

theorem height_mem_heights (w : Word) : height w ∈ heights w :=
  ⟨w.length, Nat.le_refl w.length, heightAt_length w⟩

theorem heights_nil : heights [] = {0} := by
  ext x
  simp [heights, heightAt]

theorem heights_concat (u : Word) (c : Char) :
    heights (u ++ [c]) = insert (height (u ++ [c])) (heights u) := by
  have hplaces : {k | k ≤ (u ++ [c]).length} = insert (u.length + 1) {k | k ≤ u.length} := by
    ext k
    simp only [List.length_append, List.length_singleton, Set.mem_ofPred_eq, Set.mem_insert_iff]
    omega
  rw [heights, hplaces, Set.image_insert_eq, heightAt_concat_length]
  exact congrArg _ (Set.image_congr fun k hk => heightAt_concat hk c)

/-! ### Unclosed brackets -/

/-- After an unclosed bracket the word stays above the height in front of
it. -/
theorem Unclosed.lt {w : Word} {i k : Nat} (h : Unclosed w i) (hik : i < k) (hk : k ≤ w.length) :
    heightAt w i < heightAt w k := by
  rcases Nat.lt_or_ge (i + 1) k with hlt | hge
  · exact h.2 k hlt hk
  · obtain rfl : k = i + 1 := by omega
    rw [heightAt_succ h.1, height_open]
    omega

theorem Unclosed.lt_length {w : Word} {i : Nat} (h : Unclosed w i) : i < w.length :=
  (List.getElem?_eq_some_iff.1 h.1).1

theorem Unclosed.lt_height {w : Word} {i : Nat} (h : Unclosed w i) : heightAt w i < height w := by
  rw [← heightAt_length]
  exact h.lt h.lt_length le_rfl

/-- One more symbol: it is an unclosed bracket itself, or the word still ends
above the height in front of one that was unclosed before. -/
theorem unclosed_concat {u : Word} {c : Char} {i : Nat} :
    Unclosed (u ++ [c]) i ↔
      (i = u.length ∧ c = '[') ∨ (Unclosed u i ∧ heightAt u i < height (u ++ [c])) := by
  have hlen : (u ++ [c]).length = u.length + 1 := by simp
  constructor
  · intro h
    have hi := h.lt_length
    rcases Nat.lt_or_ge i u.length with hiu | hui
    · refine Or.inr ⟨⟨?_, fun k hik hk => ?_⟩, ?_⟩
      · rw [← h.1, List.getElem?_append_left hiu]
      · have hlt := h.lt (show i < k by omega) (by omega)
        rwa [heightAt_concat hiu.le, heightAt_concat hk] at hlt
      · have hlt := h.lt_height
        rwa [heightAt_concat hiu.le] at hlt
    · obtain rfl : i = u.length := by omega
      have hc := h.1
      rw [List.getElem?_concat_length] at hc
      exact Or.inl ⟨rfl, Option.some.inj hc⟩
  · rintro (⟨rfl, rfl⟩ | ⟨h, hlast⟩)
    · exact ⟨List.getElem?_concat_length, fun k hik hk => by omega⟩
    · have hi := h.lt_length
      refine ⟨by rw [List.getElem?_append_left hi, h.1], fun k hik hk => ?_⟩
      rw [heightAt_concat hi.le]
      rcases Nat.lt_or_ge u.length k with huk | hku
      · obtain rfl : k = u.length + 1 := by omega
        rwa [heightAt_concat_length]
      · rw [heightAt_concat hku]
        exact h.2 k hik hku

/-! ### The stack -/

/-- A stack of positions after the word `u`: the brackets that are unclosed, the
innermost first, as many as the word is high. -/
structure Opened (u : Word) (opened : List Nat) : Prop where
  mem : ∀ i, i ∈ opened ↔ Unclosed u i
  descending : opened.Pairwise (· > ·)
  length : (opened.length : Int) = height u

theorem opened_nil : Opened [] [] :=
  ⟨fun i => ⟨nofun, fun h => absurd h.lt_length (Nat.not_lt_zero i)⟩, .nil, rfl⟩

/-- An unclosed bracket is at least as high as there are others around it. -/
theorem Unclosed.level {u : Word} (closable : Closable u) :
    ∀ {outer : List Nat} {i : Nat}, (i :: outer).Pairwise (· > ·) →
      (∀ j ∈ i :: outer, Unclosed u j) → (outer.length : Int) ≤ heightAt u i
  | [], i, _, hmem => closable_iff_heightAt.1 closable i (hmem i List.mem_cons_self).lt_length.le
  | j :: outer, i, hdesc, hmem => by
    obtain ⟨hbelow, hrest⟩ := List.pairwise_cons.1 hdesc
    have hj := Unclosed.level closable hrest fun k hk => hmem k (List.mem_cons_of_mem i hk)
    have hopen := hmem j (List.mem_cons_of_mem i List.mem_cons_self)
    have hlt := hopen.lt (hbelow j List.mem_cons_self) (hmem i List.mem_cons_self).lt_length.le
    rw [List.length_cons]
    omega

namespace Opened

variable {u : Word}

theorem concat_open {opened : List Nat} (h : Opened u opened) :
    Opened (u ++ ['[']) (u.length :: opened) := by
  have hup : height (u ++ ['[']) = height u + 1 := by rw [height_append, height_open]
  refine ⟨fun i => ?_, List.pairwise_cons.2 ⟨fun i hi => ((h.mem i).1 hi).lt_length, h.descending⟩,
    by rw [hup, ← h.length]; rfl⟩
  rw [List.mem_cons, h.mem, unclosed_concat, hup]
  refine or_congr (by simp) ⟨fun hi => ⟨hi, ?_⟩, And.left⟩
  have hlt := hi.lt_height
  omega

/-- A closing bracket takes off the innermost position and no other. -/
theorem concat_close (closable : Closable u) {last : Nat} {outer : List Nat}
    (h : Opened u (last :: outer)) : Opened (u ++ [']']) outer := by
  have hdown : height (u ++ [']']) = height u - 1 := by rw [height_append, height_close]; rfl
  have hlength := h.length
  rw [List.length_cons] at hlength
  obtain ⟨hbelow, hdesc⟩ := List.pairwise_cons.1 h.descending
  have hlast := (h.mem last).1 List.mem_cons_self
  refine ⟨fun i => ?_, hdesc, by omega⟩
  rw [unclosed_concat, hdown, ← h.mem, List.mem_cons]
  constructor
  · intro hi
    have hopen := (h.mem i).1 (List.mem_cons_of_mem last hi)
    have hlt := hopen.lt (hbelow i hi) hlast.lt_length.le
    have htop := hlast.lt_height
    exact Or.inr ⟨Or.inr hi, by omega⟩
  · rintro (⟨-, hc⟩ | ⟨rfl | hi, hlt⟩)
    · cases hc
    · have hlevel := Unclosed.level closable h.descending fun j => (h.mem j).1
      omega
    · exact hi

theorem concat_other {opened : List Nat} (h : Opened u opened) {c : Char} (left : c ≠ '[')
    (right : c ≠ ']') : Opened (u ++ [c]) opened := by
  have hsame : height (u ++ [c]) = height u := by
    rw [height_append, height_other left right, Int.add_zero]
  refine ⟨fun i => ?_, h.descending, by rw [hsame, h.length]⟩
  rw [h.mem, unclosed_concat, hsame]
  constructor
  · exact fun hi => Or.inr ⟨hi, hi.lt_height⟩
  · rintro (⟨-, hc⟩ | ⟨hi, -⟩)
    · exact absurd hc left
    · exact hi

/-- The innermost position is the last bracket that is unclosed. -/
theorem isGreatest {last : Nat} {outer : List Nat} (h : Opened u (last :: outer)) :
    IsGreatest {i | Unclosed u i} last := by
  refine ⟨(h.mem last).1 List.mem_cons_self, fun i hi => ?_⟩
  rcases List.mem_cons.1 ((h.mem i).2 hi) with rfl | hi
  · exact le_rfl
  · exact ((List.pairwise_cons.1 h.descending).1 i hi).le

end Opened

/-- A word that does not end higher than before has the same greatest
height. -/
theorem isGreatest_concat {u : Word} {c : Char} {deepest : Nat}
    (h : IsGreatest (heights u) deepest) (hle : height (u ++ [c]) ≤ height u) :
    IsGreatest (heights (u ++ [c])) deepest := by
  have hmax := h.insert (height (u ++ [c]))
  rwa [← heights_concat, max_eq_right (hle.trans (h.2 (height_mem_heights u)))] at hmax

/-- Over a closable prefix the scan goes on with the unclosed brackets on its
stack and the greatest height as the deepest nesting. -/
theorem scan_opened {u : Word} (h : Closable u) :
    ∃ (opened : List Nat) (deepest : Nat), Opened u opened ∧ IsGreatest (heights u) deepest ∧
      ∀ v, scan 0 [] 0 0 (u ++ v) = scan u.length opened opened.length deepest v := by
  induction u using List.reverseRecOn with
  | nil =>
    refine ⟨[], 0, opened_nil, ?_, fun _ => rfl⟩
    rw [heights_nil]
    exact isGreatest_singleton
  | append_singleton u c ih =>
    obtain ⟨hu, hc⟩ := closable_concat.1 h
    obtain ⟨opened, deepest, hopened, hdeepest, hscan⟩ := ih hu
    simp only [List.append_assoc, List.singleton_append, List.length_append, List.length_singleton,
      hscan]
    by_cases ho : c = '['
    · subst ho
      have hgreatest := hdeepest.insert (height (u ++ ['[']))
      have hmax : max (height (u ++ ['['])) (deepest : Int) =
          (max deepest (opened.length + 1) : Nat) := by
        rw [← hopened.concat_open.length, List.length_cons]
        omega
      rw [← heights_concat, hmax] at hgreatest
      exact ⟨_, _, hopened.concat_open, hgreatest, fun v => scan_open _ _ _ _ v⟩
    · by_cases hcl : c = ']'
      · subst hcl
        cases opened with
        | nil =>
          rw [height_append, ← hopened.length, height_close] at hc
          exact absurd hc (by decide)
        | cons last outer =>
          refine ⟨outer, deepest, hopened.concat_close hu, isGreatest_concat hdeepest ?_,
            fun v => ?_⟩
          · rw [height_append, height_close]
            omega
          · rw [scan_close, List.length_cons, Nat.add_sub_cancel]
      · refine ⟨opened, deepest, hopened.concat_other ho hcl, isGreatest_concat hdeepest ?_,
          fun v => scan_other _ _ _ _ _ _ ho hcl⟩
        rw [height_append, height_other ho hcl, Int.add_zero]

/-! ### What the scan finds -/

theorem depth_closable {w : Word} (h : Closable w) :
    ∃ (opened : List Nat) (deepest : Nat), Opened w opened ∧ IsGreatest (heights w) deepest ∧
      depth w = scan w.length opened opened.length deepest [] := by
  obtain ⟨opened, deepest, hopened, hdeepest, hscan⟩ := scan_opened h
  have hend := hscan []
  rw [List.append_nil] at hend
  exact ⟨opened, deepest, hopened, hdeepest, hend⟩

theorem depth_of_closable {w : Word} (h : Closable w) (i : Nat) :
    depth w ≠ .error (.unmatched i) := by
  obtain ⟨opened, deepest, -, -, hdepth⟩ := depth_closable h
  rw [hdepth]
  cases opened <;> simp [scan]

theorem depth_of_firstUnmatched {w : Word} {i : Nat} (h : FirstUnmatched w i) :
    depth w = .error (.unmatched i) := by
  obtain ⟨opened, deepest, stack, -, hscan⟩ := scan_opened h.closable_take
  have hopened : opened = [] := by
    have hlen := stack.length
    rw [h.1.2] at hlen
    exact List.length_eq_zero_iff.1 (by omega)
  have hi : i < w.length := (List.getElem?_eq_some_iff.1 h.1.1).1
  rw [depth, h.split, hscan, hopened, List.length_take_of_le hi.le]
  rfl

/-- The unmatched bracket that `depth` reports is the first one. -/
theorem depth_eq_unmatched_iff {w : Word} {i : Nat} :
    depth w = .error (.unmatched i) ↔ FirstUnmatched w i := by
  refine ⟨fun h => ?_, depth_of_firstUnmatched⟩
  rcases closable_or_firstUnmatched w with hw | ⟨j, hj⟩
  · exact absurd h (depth_of_closable hw i)
  · have heq := (depth_of_firstUnmatched hj).symm.trans h
    cases heq
    exact hj

/-- The words without an unmatched bracket are those that `depth` measures or
finds unclosed. -/
theorem closable_iff_depth {w : Word} :
    Closable w ↔ (∃ d, depth w = .ok d) ∨ ∃ i, depth w = .error (.unclosed i) := by
  constructor
  · intro h
    cases hd : depth w with
    | ok d => exact Or.inl ⟨d, rfl⟩
    | error fault =>
      cases fault with
      | unmatched i => exact absurd hd (depth_of_closable h i)
      | unclosed i => exact Or.inr ⟨i, rfl⟩
  · intro h
    rcases closable_or_firstUnmatched w with hw | ⟨j, hj⟩
    · exact hw
    · rw [depth_of_firstUnmatched hj] at h
      rcases h with ⟨d, h⟩ | ⟨i, h⟩ <;> cases h

end Bracket
end Arbor
