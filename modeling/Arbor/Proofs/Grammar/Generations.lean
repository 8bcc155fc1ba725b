/-
# Generations as a substitution

Where all replacements are texts a generation never fails: it substitutes for
every symbol its image, and a number of generations repeats that
(`Grammar.descend`). What expansion can refuse then are the keys, whatever the
number of generations is (`expand_whole`).

A substitution maps prefixes to prefixes. So if one generation of a word
begins with the word itself, every generation of it begins with all the
earlier ones (`descend_prefix_of_le`).

Key definitions: `Grammar.Worded`, `Grammar.Fit`, `Grammar.descend`.
Key theorems: `Grammar.replacement_map`, `Grammar.image_cases`,
`Grammar.derive_worded`, `Grammar.expand_whole`, `Grammar.Fit.expand`,
`Grammar.descend_append`, `Grammar.prefix_descend`,
`Grammar.descend_prefix_of_le`.
-/
import Mathlib.Data.List.Infix
import Arbor.Grammar

namespace Arbor
namespace Grammar

variable {rules : Rules}

/-- All replacements are texts. -/
def Worded (rules : Rules) : Prop := ∀ rule ∈ rules, ∃ word, rule.2 = .text word

theorem worded_singleton (key : Setting) (word : Word) : Worded [(key, .text word)] := by
  intro rule hrule
  rw [List.mem_singleton] at hrule
  exact ⟨word, by rw [hrule]⟩

theorem isKeyOf_eq_true {c : Char} {key : Setting} (h : isKeyOf c key = true) :
    key = .text [c] := by
  unfold isKeyOf at h
  split at h
  · rw [eq_of_beq h]
  · cases h

theorem mem_of_replacement {c : Char} {value : Setting} :
    ∀ {rules : Rules}, replacement c rules = some value → (.text [c], value) ∈ rules
  | [], h => by cases h
  | (key, first) :: rest, h => by
    rw [replacement] at h
    cases hrest : replacement c rest with
    | some later =>
      rw [hrest] at h
      exact List.mem_cons_of_mem _ (mem_of_replacement (hrest.trans h))
    | none =>
      rw [hrest] at h
      by_cases hkey : isKeyOf c key = true
      · simp only [hkey, if_true, Option.some.injEq] at h
        rw [isKeyOf_eq_true hkey, h]
        exact List.mem_cons_self
      · simp [hkey] at h

/-- The replacement of a symbol if every rule is given another one, which may
depend on its key. -/
theorem replacement_map (c : Char) (change : Setting → Setting → Setting) : ∀ rules : Rules,
    replacement c (rules.map fun rule => (rule.1, change rule.1 rule.2)) =
      (replacement c rules).map (change (.text [c]))
  | [] => rfl
  | (key, value) :: rest => by
    rw [List.map_cons, replacement, replacement, replacement_map c change rest]
    cases replacement c rest with
    | some later => rfl
    | none =>
      by_cases hkey : isKeyOf c key = true
      · simp [isKeyOf_eq_true hkey, isKeyOf]
      · simp [hkey]

/-- A symbol without a rule stays, and one with a rule becomes its
replacement. -/
theorem image_cases (worded : Worded rules) (c : Char) :
    image? rules c = some (image rules c) ∧
      (image rules c = [c] ∨ (.text [c], .text (image rules c)) ∈ rules) := by
  unfold image image?
  cases hvalue : replacement c rules with
  | none => exact ⟨rfl, Or.inl rfl⟩
  | some value =>
    have hmem := mem_of_replacement hvalue
    obtain ⟨word, hword⟩ := worded _ hmem
    obtain rfl : value = .text word := hword
    exact ⟨rfl, Or.inr hmem⟩

theorem derive_worded (worded : Worded rules) (w : Word) :
    derive rules w = .ok (w.flatMap (image rules)) := by
  have hall : (w.all fun c => (image? rules c).isSome) = true := by
    rw [List.all_eq_true]
    intro c _
    rw [(image_cases worded c).1]
    rfl
  rw [derive, if_pos hall]

/-- Rules that are accepted and never fail: every key is a single symbol and
every replacement is a text. -/
structure Fit (rules : Rules) : Prop where
  keys : ∀ rule ∈ rules, isSymbol rule.1 = true
  worded : Worded rules

theorem fit_nil : Fit [] where
  keys _ hrule := by cases hrule
  worded _ hrule := by cases hrule

theorem Fit.cons (fit : Fit rules) (key : Char) (word : Word) :
    Fit ((.text [key], .text word) :: rules) where
  keys rule hrule := by
    rcases List.mem_cons.1 hrule with rfl | hrest
    · rfl
    · exact fit.keys rule hrest
  worded rule hrule := by
    rcases List.mem_cons.1 hrule with rfl | hrest
    · exact ⟨word, rfl⟩
    · exact fit.worded rule hrest

/-! ### Any number of generations -/

/-- What a word becomes in a number of generations. -/
def descend (rules : Rules) : Nat → Word → Word
  | 0, w => w
  | n + 1, w => descend rules n (w.flatMap (image rules))

@[simp] theorem descend_zero (w : Word) : descend rules 0 w = w := rfl

theorem descend_succ (n : Nat) (w : Word) :
    descend rules (n + 1) w = descend rules n (w.flatMap (image rules)) := rfl

theorem rounds_worded (worded : Worded rules) :
    ∀ (n : Nat) (w : Word), rounds rules n w = .ok (descend rules n w)
  | 0, _ => rfl
  | n + 1, w => by
    rw [rounds_succ, derive_worded worded, descend_succ]
    exact rounds_worded worded n _

/-- A whole number of generations that is not negative is fit for use if the
keys are. -/
theorem check_whole (rules : Rules) (n : Nat) :
    check rules (.whole n) =
      match rules.find? fun rule => !isSymbol rule.1 with
      | some rule => .error (.key rule.1)
      | none => .ok n := by
  have hn : ¬ (n : Int) < 0 := Int.not_lt.2 (Int.natCast_nonneg n)
  unfold check
  cases rules.find? fun rule => !isSymbol rule.1 with
  | some rule => simp only [if_neg hn]
  | none => simp only [if_neg hn, Int.toNat_natCast]

theorem expand_whole (worded : Worded rules) (start : Word) (n : Nat) :
    expand start rules (.whole n) =
      match rules.find? fun rule => !isSymbol rule.1 with
      | some rule => .error (.key rule.1)
      | none => .ok (descend rules n start) := by
  rw [expand, check_whole]
  cases rules.find? fun rule => !isSymbol rule.1 with
  | some rule => rfl
  | none => exact rounds_worded worded n start

theorem expand_eq_descend (worded : Worded rules) (keys : ∀ rule ∈ rules, isSymbol rule.1 = true)
    (start : Word) (n : Nat) : expand start rules (.whole n) = .ok (descend rules n start) := by
  have hfind : (rules.find? fun rule => !isSymbol rule.1) = none := by
    rw [List.find?_eq_none]
    intro rule hrule
    rw [keys rule hrule]
    decide
  rw [expand_whole worded, hfind]

theorem Fit.expand (fit : Fit rules) (start : Word) (n : Nat) :
    expand start rules (.whole n) = .ok (descend rules n start) :=
  expand_eq_descend fit.worded fit.keys start n

/-! ### Words put together -/

theorem descend_append (n : Nat) (u v : Word) :
    descend rules n (u ++ v) = descend rules n u ++ descend rules n v := by
  induction n generalizing u v with
  | zero => rfl
  | succ n ih => rw [descend_succ, descend_succ, descend_succ, List.flatMap_append, ih]

/-! ### Prefixes -/

theorem prefix_flatMap {u w : Word} (h : u <+: w) (image : Char → Word) :
    u.flatMap image <+: w.flatMap image := by
  obtain ⟨v, rfl⟩ := h
  rw [List.flatMap_append]
  exact List.prefix_append _ _

theorem prefix_descend {u w : Word} (h : u <+: w) (n : Nat) :
    descend rules n u <+: descend rules n w := by
  obtain ⟨v, rfl⟩ := h
  rw [descend_append]
  exact List.prefix_append _ _

/-- A word that its own next generation begins with grows by extension. -/
theorem descend_prefix_of_le {start : Word} (h : start <+: start.flatMap (image rules)) {n m : Nat}
    (hnm : n ≤ m) : descend rules n start <+: descend rules m start := by
  induction hnm with
  | refl => exact List.prefix_rfl
  | @step m hle ih => exact ih.trans (prefix_descend h m)

end Grammar
end Arbor
