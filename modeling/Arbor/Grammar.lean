/-
# Grammars

A grammar grows a word by generations: in each one every symbol that has a
rule is replaced by the rule's replacement and all others stay as they are.
Rules are pairs of a key and a replacement, a later pair winning over an
earlier one with the same key. Nothing about them is known beforehand:
`Grammar.check` refuses a count that is no whole number or is negative and a
key that is no single symbol, while a replacement that is no text is found
out only when its symbol is met.

Key definitions: `Grammar.image?`, `Grammar.derive`, `Grammar.expand`,
`Grammar.generations`, `mimosaRules`.
Key theorems: `Grammar.derive_nil`, `Grammar.rounds_zero`,
`Grammar.rounds_succ`.
-/
import Arbor.Setting

namespace Arbor

/-- A word of symbols. -/
abbrev Word := List Char

/-- Rules: what is to be replaced, and by what, in the order given. -/
abbrev Rules := List (Setting × Setting)

namespace Grammar

/-- Why a grammar cannot be expanded. -/
inductive Fault where
  /-- The number of generations is not a whole number. -/
  | generationsNotWhole
  | generationsNegative
  /-- A key is not a single symbol. -/
  | key (found : Setting)
  /-- A symbol was met whose replacement is not a text. -/
  | replacementNotText

/-- The wording of a fault. -/
def Fault.message : Fault → String
  | generationsNotWhole => "generations must be an integer"
  | generationsNegative => "generations must be >= 0"
  | key found => "rule key " ++ found.written ++ " must be a single symbol"
  | replacementNotText => "a replacement must be a text"

/-- Whether a key is the symbol `c`. -/
def isKeyOf (c : Char) : Setting → Bool
  | .text [d] => d == c
  | _ => false

/-- Whether a key is a single symbol. -/
def isSymbol : Setting → Bool
  | .text [_] => true
  | _ => false

/-- The replacement of the last pair whose key is the symbol `c`. -/
def replacement (c : Char) : Rules → Option Setting
  | [] => none
  | (key, value) :: rest =>
    match replacement c rest with
    | some later => some later
    | none => if isKeyOf c key then some value else none

/-- What a symbol becomes in one generation, if that is a word. -/
def image? (rules : Rules) (c : Char) : Option Word :=
  match replacement c rules with
  | none => some [c]
  | some (.text word) => some word
  | some _ => none

/-- What a symbol becomes in one generation; nothing, if its replacement is
no word. -/
def image (rules : Rules) (c : Char) : Word := (image? rules c).getD []

/-- One generation: every symbol is replaced by its image. -/
def derive (rules : Rules) (word : Word) : Except Fault Word :=
  if word.all fun c => (image? rules c).isSome then .ok (word.flatMap (image rules))
  else .error .replacementNotText

@[simp] theorem derive_nil (rules : Rules) : derive rules [] = .ok [] := rfl

/-- The number of generations, when it and the keys are fit for use. The first
unfit key is the one that is named. -/
def check (rules : Rules) : Setting → Except Fault Nat
  | .whole n =>
    if n < 0 then .error .generationsNegative
    else
      match rules.find? fun rule => !isSymbol rule.1 with
      | some rule => .error (.key rule.1)
      | none => .ok n.toNat
  | _ => .error .generationsNotWhole

/-- A number of generations one after the other. -/
def rounds (rules : Rules) : Nat → Word → Except Fault Word
  | 0, word => .ok word
  | n + 1, word =>
    match derive rules word with
    | .error fault => .error fault
    | .ok next => rounds rules n next

@[simp] theorem rounds_zero (rules : Rules) (word : Word) : rounds rules 0 word = .ok word := rfl

theorem rounds_succ (rules : Rules) (n : Nat) (word : Word) :
    rounds rules (n + 1) word = (derive rules word).bind (rounds rules n) := by
  rw [rounds]
  cases derive rules word <;> rfl

/-- The word that a start word becomes after the given generations. -/
def expand (start : Word) (rules : Rules) (generations : Setting) : Except Fault Word :=
  match check rules generations with
  | .error fault => .error fault
  | .ok n => rounds rules n start

/-- The start word and what it becomes, as many words as `count`; `seen` are
the words before them, the last one first. -/
def unfold (rules : Rules) : Nat → Word → List Word → Except Fault (List Word)
  | 0, _, seen => .ok seen.reverse
  | 1, word, seen => .ok (word :: seen).reverse
  | count + 2, word, seen =>
    match derive rules word with
    | .error fault => .error fault
    | .ok next => unfold rules (count + 1) next (word :: seen)

/-- The words from the start word to the last generation, or only the first
`limit` of them. A word is made when it is asked for, so the faults of later
ones do not matter, but the settings are checked at once. -/
def generations (start : Word) (rules : Rules) (count : Setting) (limit : Option Nat) :
    Except Fault (List Word) :=
  match check rules count with
  | .error fault => .error fault
  | .ok n =>
    let count := match limit with
      | none => n + 1
      | some most => min most (n + 1)
    unfold rules count start []

end Grammar

/-! ### The mimosa

The grammar that trees grow by when no other is given. -/

/-- The word a mimosa starts as. -/
def mimosaStart : Word := "F".toList

/-- How a branch of a mimosa grows. -/
def mimosaRules : Rules := [(.text "F".toList, .text "FF+[+F-F-^F]-[-F+F&F]".toList)]

/-- How many generations a mimosa grows. -/
def mimosaGenerations : Nat := 5

end Arbor
