/-
# Dead symbols

A symbol is alive if it has a rule or is a command of the turtle, and dead
otherwise. `Grammar.erase` deletes the dead symbols from a word and
`Grammar.erased` deletes them from all replacements of a grammar.

A generation hands a dead symbol on as it is, so nothing that is alive comes
from it, and a symbol that is alive keeps its rule. Therefore it makes no
difference whether the dead symbols are deleted before the generations or
after them (`expand_erased`). This holds for all rules, also for those that
are refused or fail: the faults are the same.

Key definitions: `Command.symbols`, `Grammar.isLive`, `Grammar.erase`,
`Grammar.erased`.
Key theorems: `Command.ofSymbol_eq_idle_iff`, `Grammar.image?_erased`,
`Grammar.derive_erased`, `Grammar.expand_erased`.
-/
import Arbor.Proofs.Grammar.Generations
import Arbor.Turtle.Command

namespace Arbor

/-- The symbols that tell the turtle to do something. -/
def Command.symbols : Word := ['F', '+', '-', '&', '^', '\\', '/', '[', ']']

theorem Command.ofSymbol_eq_idle_iff {c : Char} : ofSymbol c = .idle ↔ c ∉ symbols := by
  constructor
  · intro idle hc
    simp only [symbols, List.mem_cons, List.not_mem_nil, or_false] at hc
    rcases hc with rfl | rfl | rfl | rfl | rfl | rfl | rfl | rfl | rfl <;> cases idle
  · intro hc
    simp only [symbols, List.mem_cons, List.not_mem_nil, or_false, not_or] at hc
    unfold ofSymbol
    split <;> first | rfl | simp at hc

namespace Grammar

/-- Whether a symbol has a rule or is a command of the turtle. -/
def isLive (rules : Rules) (c : Char) : Bool :=
  rules.any (fun rule => isKeyOf c rule.1) || decide (c ∈ Command.symbols)

/-- A word without its dead symbols. -/
def erase (rules : Rules) (w : Word) : Word := w.filter (isLive rules)

/-- A replacement without its dead symbols. What is no text stays what it
is. -/
def eraseSetting (rules : Rules) : Setting → Setting
  | .text word => .text (erase rules word)
  | value => value

/-- The rules with the dead symbols deleted from all replacements. -/
def erased (rules : Rules) : Rules := rules.map fun rule => (rule.1, eraseSetting rules rule.2)

variable {rules : Rules}

@[simp] theorem erase_nil : erase rules [] = [] := rfl

theorem erase_cons_live {c : Char} (live : isLive rules c = true) (w : Word) :
    erase rules (c :: w) = c :: erase rules w := List.filter_cons_of_pos live

theorem erase_cons_dead {c : Char} (dead : isLive rules c = false) (w : Word) :
    erase rules (c :: w) = erase rules w := by
  refine List.filter_cons_of_neg ?_
  rw [dead]
  decide

theorem erase_append (u v : Word) : erase rules (u ++ v) = erase rules u ++ erase rules v :=
  List.filter_append u v

/-- A dead symbol tells the turtle nothing. -/
theorem idle_of_dead {c : Char} (dead : isLive rules c = false) : Command.ofSymbol c = .idle := by
  have hc : c ∉ Command.symbols := by
    intro hmem
    unfold isLive at dead
    simp [hmem] at dead
  exact Command.ofSymbol_eq_idle_iff.2 hc

/-! ### Images -/

/-- A dead symbol stays what it is. -/
theorem image?_dead {c : Char} (dead : isLive rules c = false) : image? rules c = some [c] := by
  have hkeys : ∀ rule ∈ rules, isKeyOf c rule.1 = false := by
    intro rule hrule
    unfold isLive at dead
    rw [Bool.or_eq_false_iff, List.any_eq_false] at dead
    simpa using dead.1 rule hrule
  unfold image?
  cases hvalue : replacement c rules with
  | none => rfl
  | some value =>
    have hkey : isKeyOf c (.text [c]) = false := hkeys _ (mem_of_replacement hvalue)
    simp [isKeyOf] at hkey

/-- A symbol that is alive becomes the same as before, without dead
symbols. -/
theorem image?_erased {c : Char} (live : isLive rules c = true) :
    image? (erased rules) c = (image? rules c).map (erase rules) := by
  unfold image? erased
  rw [replacement_map c fun _ value => eraseSetting rules value]
  cases replacement c rules with
  | none =>
    show some [c] = some (erase rules [c])
    rw [erase_cons_live live, erase_nil]
  | some value => cases value <;> rfl

theorem image_erased {c : Char} (live : isLive rules c = true) :
    image (erased rules) c = erase rules (image rules c) := by
  unfold image
  rw [image?_erased live]
  cases image? rules c <;> rfl

theorem erase_image_dead {c : Char} (dead : isLive rules c = false) :
    erase rules (image rules c) = [] := by
  unfold image
  rw [image?_dead dead, Option.getD_some, erase_cons_dead dead, erase_nil]

/-! ### Generations -/

/-- Deleting dead symbols does not hide a symbol whose replacement is no
text, since that one has a rule. -/
theorem all_image?_erased (w : Word) :
    ((erase rules w).all fun c => (image? (erased rules) c).isSome) =
      w.all fun c => (image? rules c).isSome := by
  induction w with
  | nil => rfl
  | cons c w ih =>
    rw [List.all_cons, ← ih]
    by_cases live : isLive rules c = true
    · rw [erase_cons_live live, List.all_cons, image?_erased live, Option.isSome_map]
    · have dead : isLive rules c = false := by simpa using live
      rw [erase_cons_dead dead, image?_dead dead, Option.isSome_some, Bool.true_and]

theorem flatMap_image_erased (w : Word) :
    (erase rules w).flatMap (image (erased rules)) = erase rules (w.flatMap (image rules)) := by
  induction w with
  | nil => rfl
  | cons c w ih =>
    rw [List.flatMap_cons, erase_append, ← ih]
    by_cases live : isLive rules c = true
    · rw [erase_cons_live live, List.flatMap_cons, image_erased live]
    · have dead : isLive rules c = false := by simpa using live
      rw [erase_cons_dead dead, erase_image_dead dead, List.nil_append]

theorem derive_erased (w : Word) :
    derive (erased rules) (erase rules w) = (derive rules w).map (erase rules) := by
  unfold derive
  rw [all_image?_erased, flatMap_image_erased]
  by_cases hall : (w.all fun c => (image? rules c).isSome) = true
  · rw [if_pos hall, if_pos hall]
    rfl
  · rw [if_neg hall, if_neg hall]
    rfl

theorem rounds_erased : ∀ (n : Nat) (w : Word),
    rounds (erased rules) n (erase rules w) = (rounds rules n w).map (erase rules)
  | 0, _ => rfl
  | n + 1, w => by
    rw [rounds_succ, rounds_succ, derive_erased]
    cases derive rules w with
    | error fault => rfl
    | ok next => exact rounds_erased n next

/-- The same key is named first, if one is unfit. -/
theorem find?_key_erased :
    ((erased rules).find? fun rule => !isSymbol rule.1).map (·.1) =
      (rules.find? fun rule => !isSymbol rule.1).map (·.1) := by
  unfold erased
  rw [List.find?_map, Option.map_map]
  rfl

theorem check_erased (count : Setting) : check (erased rules) count = check rules count := by
  cases count with
  | whole n =>
    have hkey := @find?_key_erased rules
    simp only [check]
    cases hbad : rules.find? fun rule => !isSymbol rule.1 with
    | none =>
      rw [hbad] at hkey
      rw [Option.map_eq_none_iff.1 hkey]
    | some rule =>
      rw [hbad] at hkey
      obtain ⟨other, hother, hsame⟩ := Option.map_eq_some_iff.1 hkey
      have hsame : other.1 = rule.1 := hsame
      rw [hother]
      simp only [hsame]
  | nothing => rfl
  | truth value => rfl
  | real value => rfl
  | text value => rfl
  | collection value => rfl

/-- It makes no difference whether dead symbols are deleted before the
generations or after them. -/
theorem expand_erased (start : Word) (count : Setting) :
    expand (erase rules start) (erased rules) count =
      (expand start rules count).map (erase rules) := by
  unfold expand
  rw [check_erased]
  cases check rules count with
  | error fault => rfl
  | ok n => exact rounds_erased n start

end Grammar
end Arbor
