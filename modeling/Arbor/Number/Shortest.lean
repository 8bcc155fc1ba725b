/-
# The shortest decimal of a floating-point number

Many decimals read back as the same floating-point number. `Shortest.digits`
finds the one with the fewest digits and, among those, the one nearest to the
exact value. Only the two neighbours of the value on each decimal grid have
to be tried: if any point of a grid reads back, one of them does.

`Shortest.text` writes it: positional when the decimal exponent lies between
-4 and 15, with at least one digit after the point, and with a power of ten
of at least two digits otherwise.

Key definitions: `Shortest.digits`, `Shortest.text`.
-/
import Arbor.Number.Binary

namespace Arbor
namespace Shortest

open scoped Power

/-- How many decimal digits a whole number has; one for zero. -/
def width (n : Nat) : Nat := (Nat.repr n).length

/-- The number `k` with `10 ^ (k - 1) ≤ num / den < 10 ^ k`. -/
def point (num den : Nat) : Int :=
  if den ≤ num then Int.ofNat (width (num / den))
  else 1 - Int.ofNat (width ((den - 1) / num))

/-- Whether `c * 10 ^ g` reads back as `m * 2 ^ e`: it lies between the
half-way points to the two neighbours of that number, which count as inside
when `m` is even. The lower neighbour of a power of two is twice as near. -/
def readsBack (m : Nat) (e : Int) (c : Nat) (g : Int) : Bool :=
  let unit := Binary.numerator 1 e
  let value := 4 * m * unit
  let below := if m = 2 ^ 52 ∧ -1074 < e then unit else 2 * unit
  let tried := 4 * c * Binary.denominator e * 10 ^ g.toNat
  let low := (value - below) * 10 ^ (-g).toNat
  let high := (value + 2 * unit) * 10 ^ (-g).toNat
  if m % 2 = 0 then decide (low ≤ tried) && decide (tried ≤ high)
  else decide (low < tried) && decide (tried < high)

/-- The better of the two neighbours of `m * 2 ^ e` on the grid of multiples
of `10 ^ g`, if one of them reads back. -/
def onGrid (m : Nat) (e : Int) (g : Int) : Option Nat :=
  let num := Binary.numerator m e * 10 ^ (-g).toNat
  let den := Binary.denominator e * 10 ^ g.toNat
  let near := roundEven num den
  let far := if near = num / den then near + 1 else num / den
  if readsBack m e near g then some near
  else if readsBack m e far g then some far
  else none

/-- The first of the grids `10 ^ g`, `10 ^ (g - 1)`, … that has a point which
reads back, and that point. -/
def search (m : Nat) (e : Int) : Nat → Int → Nat × Int
  | 0, g => ((onGrid m e g).getD 0, g)
  | tries + 1, g =>
    match onGrid m e g with
    | some c => (c, g)
    | none => search m e tries (g - 1)

/-- The shortest decimal `c * 10 ^ g` that reads back as `m * 2 ^ e`. Seventeen
digits always do. -/
def digits (m : Nat) (e : Int) : Nat × Int :=
  search m e 17 (point (Binary.numerator m e) (Binary.denominator e) - 1)

/-- A decimal exponent: a sign and at least two digits. -/
def exponentText (x : Int) : String :=
  (if x < 0 then "-" else "+") ++ (if x.natAbs < 10 then "0" else "") ++ Nat.repr x.natAbs

/-- The digits `ds`, to be read as `0.ds * 10 ^ point`, in positional or in
exponent form. -/
def layout (ds : List Char) (point : Int) : String :=
  let n := ds.length
  if -4 < point ∧ point ≤ 16 then
    if point ≤ 0 then
      "0." ++ String.ofList (List.replicate (-point).toNat '0' ++ ds)
    else if n ≤ point.toNat then
      String.ofList (ds ++ List.replicate (point.toNat - n) '0') ++ ".0"
    else
      String.ofList (ds.take point.toNat) ++ "." ++ String.ofList (ds.drop point.toNat)
  else
    let rest := ds.drop 1
    String.ofList (ds.take 1) ++ (if rest.isEmpty then "" else "." ++ String.ofList rest) ++ "e" ++
      exponentText (point - 1)

/-- The digits of a decimal without the zeros at its end. -/
def significant (c : Nat) : List Char :=
  ((Nat.repr c).toList.reverse.dropWhile (· == '0')).reverse

/-- The shortest text that reads back as `x`. -/
def text (x : Float) : String :=
  match Binary.ofFloat x with
  | .nan => "nan"
  | .infinite negative => if negative then "-inf" else "inf"
  | .finite negative m e =>
    let sign := if negative then "-" else ""
    if m = 0 then sign ++ "0.0"
    else
      let (c, g) := digits m e
      sign ++ layout (significant c) (Int.ofNat (width c) + g)

end Shortest
end Arbor
