/-
# Powers of a substitution

Where rules are fit, a generation is a substitution of words for symbols, and
what it does to a word is known from what it does to each symbol
(`descend_eq_flatMap`). Generations one after the other add up, since each of
them starts from the word of the last one (`descend_add`).

A number of generations is a substitution again. Its rules give every key what
the key becomes in that many generations (`Grammar.power`), and one generation
of them is as many of the first rules (`image_power`). So `n` generations of
the power by `m` are `m * n` generations of the rules themselves.

Key definitions: `Grammar.power`.
Key theorems: `Grammar.descend_eq_flatMap`, `Grammar.descend_add`,
`Grammar.image_power`, `Grammar.descend_power`, `Grammar.expand_iterated`.
-/
import Arbor.Proofs.Grammar.Generations

namespace Arbor
namespace Grammar

variable {rules : Rules}

/-! ### Words and generations put together -/

@[simp] theorem descend_nil (n : Nat) : descend rules n [] = [] := by
  induction n with
  | zero => rfl
  | succ n ih => exact ih

/-- What becomes of a word is put together from what becomes of its symbols. -/
theorem descend_eq_flatMap (n : Nat) (w : Word) :
    descend rules n w = w.flatMap fun c => descend rules n [c] := by
  induction w with
  | nil => exact descend_nil n
  | cons c w ih =>
    rw [← List.singleton_append, descend_append, ih, List.singleton_append, List.flatMap_cons]

theorem descend_add (m n : Nat) (w : Word) :
    descend rules (m + n) w = descend rules n (descend rules m w) := by
  induction m generalizing w with
  | zero => rw [Nat.zero_add, descend_zero]
  | succ m ih => rw [Nat.succ_add, descend_succ, descend_succ, ih]

/-! ### Symbols without a rule -/

theorem replacement_eq_none {c : Char} (free : ∀ rule ∈ rules, rule.1 ≠ .text [c]) :
    replacement c rules = none := by
  cases hvalue : replacement c rules with
  | none => rfl
  | some value => exact absurd rfl (free _ (mem_of_replacement hvalue))

theorem image_of_none {c : Char} (none : replacement c rules = none) : image rules c = [c] := by
  rw [image, image?, none, Option.getD_some]

/-- A symbol that stays for one generation stays for all. -/
theorem descend_of_image {c : Char} (stays : image rules c = [c]) (n : Nat) :
    descend rules n [c] = [c] := by
  induction n with
  | zero => rfl
  | succ n ih => rw [descend_succ, List.flatMap_singleton, stays, ih]

/-! ### Powers -/

/-- What a key becomes in `m` generations. What cannot be expanded stays what
it is. -/
def raised (rules : Rules) (m : Nat) : Setting → Setting
  | .text word =>
    match expand word rules (.whole m) with
    | .ok next => .text next
    | .error _ => .text word
  | key => key

/-- The rules that give every key what it becomes in `m` generations. -/
def power (rules : Rules) (m : Nat) : Rules := rules.map fun rule => (rule.1, raised rules m rule.1)

theorem Fit.raised_text (fit : Fit rules) (m : Nat) (word : Word) :
    raised rules m (.text word) = .text (descend rules m word) := by
  rw [raised, fit.expand]

theorem Fit.power (fit : Fit rules) (m : Nat) : Fit (power rules m) where
  keys rule hrule := by
    obtain ⟨own, hown, rfl⟩ := List.mem_map.1 hrule
    exact fit.keys own hown
  worded rule hrule := by
    obtain ⟨own, hown, rfl⟩ := List.mem_map.1 hrule
    -- a key that is no text is not fit
    have hkey := fit.keys own hown
    unfold isSymbol at hkey
    split at hkey
    · rename_i c hc
      exact ⟨descend rules m [c], by rw [hc, fit.raised_text]⟩
    · cases hkey

/-- One generation of a power is that many generations of its rules. -/
theorem image_power (fit : Fit rules) (m : Nat) (c : Char) :
    image (power rules m) c = descend rules m [c] := by
  have hvalue : replacement c (power rules m) =
      (replacement c rules).map fun _ => raised rules m (.text [c]) :=
    replacement_map c (fun key _ => raised rules m key) rules
  unfold image image?
  rw [hvalue]
  cases hrule : replacement c rules with
  | none => exact (descend_of_image (image_of_none hrule) m).symm
  | some value =>
    rw [Option.map_some, fit.raised_text]
    rfl

theorem descend_power (fit : Fit rules) (m n : Nat) (w : Word) :
    descend (power rules m) n w = descend rules (m * n) w := by
  induction n generalizing w with
  | zero => rfl
  | succ n ih =>
    have hstep : w.flatMap (image (power rules m)) = descend rules m w := by
      rw [descend_eq_flatMap]
      exact List.flatMap_congr fun c _ => image_power fit m c
    rw [descend_succ, hstep, ih, ← descend_add, Nat.mul_succ, Nat.add_comm]

/-- **Expansion is a substitution repeated.** Fit rules expand every word. The
expansion of two words put together is that of the first one and then that of
the second one, the empty word stays empty and a symbol without a rule stays
where it is. Generations add up, and they multiply: `n` generations of the
rules that give every key what it becomes in `m` are `m * n` of the rules
themselves. -/
theorem expand_iterated (fit : Fit rules) :
    (∀ (a b : Word) (n : Nat), ∃ u v, expand a rules (.whole n) = .ok u ∧
      expand b rules (.whole n) = .ok v ∧ expand (a ++ b) rules (.whole n) = .ok (u ++ v)) ∧
    (∀ n : Nat, expand [] rules (.whole n) = .ok []) ∧
    (∀ (a : Word) (m n : Nat), ∃ u, expand a rules (.whole m) = .ok u ∧
      expand a rules (.whole (m + n : Nat)) = expand u rules (.whole n)) ∧
    (∀ c, (∀ rule ∈ rules, rule.1 ≠ .text [c]) → ∀ (a b : Word) (n : Nat), ∃ u v,
      expand a rules (.whole n) = .ok u ∧ expand b rules (.whole n) = .ok v ∧
        expand (a ++ c :: b) rules (.whole n) = .ok (u ++ c :: v)) ∧
    ∀ (a : Word) (m n : Nat),
      expand a (power rules m) (.whole n) = expand a rules (.whole (m * n : Nat)) := by
  refine ⟨fun a b n => ?_, fun n => ?_, fun a m n => ?_, fun c free a b n => ?_, fun a m n => ?_⟩
  · refine ⟨descend rules n a, descend rules n b, fit.expand a n, fit.expand b n, ?_⟩
    rw [fit.expand, descend_append]
  · rw [fit.expand, descend_nil]
  · refine ⟨descend rules m a, fit.expand a m, ?_⟩
    rw [fit.expand, fit.expand, descend_add]
  · refine ⟨descend rules n a, descend rules n b, fit.expand a n, fit.expand b n, ?_⟩
    have hstays := descend_of_image (image_of_none (replacement_eq_none free)) n
    rw [fit.expand, descend_append, ← List.singleton_append, descend_append, hstays,
      List.singleton_append]
  · rw [(fit.power m).expand, fit.expand, descend_power fit]

/-- Two symbols that feed each other and a bracket that goes away, with a
symbol between them that stays. -/
theorem expand_iterated_feeding :
    let rules : Rules := [(.text ['A'], .text ['A', '[', 'B']), (.text ['B'], .text ['A']),
      (.text ['['], .text [])]
    Fit rules ∧ (∀ rule ∈ rules, rule.1 ≠ .text ['+']) ∧
      (∃ u v, expand ['A'] rules (.whole 3) = .ok u ∧ expand ['B'] rules (.whole 3) = .ok v ∧
        expand ['A', '+', 'B'] rules (.whole 3) = .ok (u ++ '+' :: v)) ∧
      power rules 2 = [(.text ['A'], .text ['A', '[', 'B', 'A']),
        (.text ['B'], .text ['A', '[', 'B']), (.text ['['], .text [])] ∧
      expand ['A'] (power rules 2) (.whole 2) = expand ['A'] rules (.whole 4) := by
  intro rules
  have fit : Fit rules := ((fit_nil.cons _ _).cons _ _).cons _ _
  have free : ∀ rule ∈ rules, rule.1 ≠ .text ['+'] := by simp [rules]
  obtain ⟨-, -, -, hstays, hpower⟩ := expand_iterated fit
  exact ⟨fit, free, hstays '+' free ['A'] ['B'] 3, rfl, hpower ['A'] 2 2⟩

end Grammar
end Arbor
