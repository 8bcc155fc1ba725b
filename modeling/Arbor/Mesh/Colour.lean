/-
# Colours

A colour is four components from 0 to 255, the last one for its opacity.
`Colour.parse` reads one from text: after any number signs at the front, two
characters each for red, green and blue are read as numbers in base sixteen,
and what follows is not looked at. A piece may be anything that reads as a
number, so it can be negative, which is refused once all three have been
read.

Key definitions: `Colour`, `Colour.parse`, `Colour.hex`.
-/
import Arbor.Number.Numeral
import Arbor.Text.Quoted

namespace Arbor

/-- A colour by its components. -/
structure Colour where
  red : Nat
  green : Nat
  blue : Nat
  alpha : Nat
  deriving DecidableEq, Repr

namespace Colour

/-- Why a text is no colour. -/
inductive Fault where
  /-- A piece of the text is no number in base sixteen. -/
  | notHexadecimal (piece : List Char)
  /-- A component is negative. -/
  | negative
  deriving DecidableEq, Repr

/-- The wording of a fault. -/
def Fault.message : Fault → String
  | notHexadecimal piece => "invalid literal for int() with base 16: " ++ quoted piece
  | negative => "a colour component is negative"

/-- The number that a piece of a text stands for. -/
def component (piece : List Char) : Except Fault Int :=
  match Numeral.readInt 16 piece with
  | none => .error (.notHexadecimal piece)
  | some n => .ok n

/-- The colour of three components, none of which may be negative. -/
def ofComponents (r g b : Int) : Except Fault Colour :=
  if r < 0 ∨ g < 0 ∨ b < 0 then .error .negative else .ok ⟨r.toNat, g.toNat, b.toNat, 255⟩

/-- Reads a colour from text. -/
def parse (text : List Char) : Except Fault Colour := do
  let digits := text.dropWhile (· == '#')
  let r ← component (digits.take 2)
  let g ← component ((digits.drop 2).take 2)
  let b ← component ((digits.drop 4).take 2)
  ofComponents r g b

/-- A colour as a number sign and six hexadecimal digits. -/
def hex (c : Colour) : String :=
  String.ofList ('#' :: (hexDigits 2 c.red ++ hexDigits 2 c.green ++ hexDigits 2 c.blue))

/-! ### The colours of a scene -/

/-- The sky behind a tree. -/
def sky : Colour := ⟨0x87, 0xCE, 0xEB, 255⟩

/-- The bark of a branch. -/
def branch : Colour := ⟨0x5D, 0x40, 0x37, 255⟩

/-- A leaf. -/
def leaf : Colour := ⟨0x8B, 0xC3, 0x4A, 255⟩

/-- A flower. -/
def flower : Colour := ⟨0xFF, 0xEB, 0x3B, 255⟩

/-- The clay of the vase. -/
def vase : Colour := ⟨0x8B, 0x45, 0x13, 255⟩

end Colour
end Arbor
