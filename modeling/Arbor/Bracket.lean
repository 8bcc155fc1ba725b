/-
# Brackets

`Bracket.depth` finds how deeply the brackets of a word are nested. A closing
bracket with nothing open is a fault at once; otherwise, at the end of the
word, the opening bracket that was opened last and is still open is one.
Symbols that are no brackets only count for the positions.

Key definitions: `Bracket.scan`, `Bracket.depth`.
Key theorems: `Bracket.scan_open`, `Bracket.scan_close`, `Bracket.scan_other`.
-/
import Arbor.Grammar

namespace Arbor
namespace Bracket

/-- Which bracket of a word has no partner. -/
inductive Fault where
  /-- A closing bracket that nothing was open for. -/
  | unmatched (index : Nat)
  /-- An opening bracket that is never closed. -/
  | unclosed (index : Nat)
  deriving DecidableEq, Repr

/-- The position of the bracket at fault. -/
def Fault.index : Fault → Nat
  | unmatched index => index
  | unclosed index => index

/-- The wording of a fault. -/
def Fault.message : Fault → String
  | unmatched index => "']' at symbol " ++ toString index ++ " has no matching '['"
  | unclosed index => "'[' at symbol " ++ toString index ++ " is never closed"

/-- Reads a word from position `index` on. The positions `opened` are open,
the innermost first, `height` is how many they are, and `deepest` is the
greatest height so far. -/
def scan (index : Nat) (opened : List Nat) (height deepest : Nat) : Word → Except Fault Nat
  | [] =>
    match opened with
    | [] => .ok deepest
    | last :: _ => .error (.unclosed last)
  | c :: rest =>
    if c = '[' then scan (index + 1) (index :: opened) (height + 1) (max deepest (height + 1)) rest
    else if c = ']' then
      match opened with
      | [] => .error (.unmatched index)
      | _ :: outer => scan (index + 1) outer (height - 1) deepest rest
    else scan (index + 1) opened height deepest rest

theorem scan_open (i : Nat) (opened : List Nat) (h d : Nat) (w : Word) :
    scan i opened h d ('[' :: w) = scan (i + 1) (i :: opened) (h + 1) (max d (h + 1)) w := rfl

theorem scan_close (i : Nat) (j : Nat) (opened : List Nat) (h d : Nat) (w : Word) :
    scan i (j :: opened) h d (']' :: w) = scan (i + 1) opened (h - 1) d w := rfl

theorem scan_other (i : Nat) (opened : List Nat) (h d : Nat) (c : Char) (w : Word)
    (left : c ≠ '[') (right : c ≠ ']') :
    scan i opened h d (c :: w) = scan (i + 1) opened h d w := by
  simp [scan, left, right]

/-- The deepest nesting of the brackets of a word. -/
def depth (word : Word) : Except Fault Nat := scan 0 [] 0 0 word

end Bracket
end Arbor
